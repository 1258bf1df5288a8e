import Tenancy.Proofs.Request.Outline
import Tenancy.Proofs.Request.Work

/-!
# Tasks conduct their requests

Behind its guards, an operation that may act conducts its request: what it writes is the work of the request. A task whose
request has no policy does not act at all.
-/

namespace Tenancy

open Step Request

namespace Request

/-- A part of an operation, taken up after some events, conducts a request: the request acts only after its policy is met, and
writes what its work says. -/
def Conducts (r : Request) (license : License) (ctx : Context) (past : List Event) (task : Step Response) : Prop :=
  task.Ensures past fun es x => r.Conducted license ctx es x.toOption

variable {r : Request} {license : License} {ctx : Context} {past : List Event}

/-- A request whose work is a single deed does it once its policy is met. -/
theorem conducts_deed {deed : Deed} (hwork : r.work = .deed deed) (hpast : Quiet past) (hmet : r.Met license ctx past) :
    r.Conducts license ctx past (deed.response <$> Step.ask ctx deed.call) := by
  have hmade (reply : Except (Refusal deed.call.Fault) deed.call.Value) :
      List.filter Event.writes [.answered ctx deed.call reply] = [.answered ctx deed.call reply] :=
    List.filter_cons_of_pos (isWrite_deed hwork)
  refine ensures_map.mpr (ensures_ask (fun cause => ?_) (fun v => ?_) fun fault => ?_)
  · exact .of_met hpast hmet .withheld
  · refine .of_met hpast hmet ?_
    rw [hmade, hwork]
    exact .done v
  · refine .of_met hpast hmet ?_
    rw [hmade, hwork]
    exact .failed fault

/-- A task that does not act conducts a request that has nothing to write. -/
theorem conducts_quiet {task : Step Response} (hwork : r.work = .nothing) (hpast : Quiet past)
    (h : task.run.Confined fun e => e.acts = false) : r.Conducts license ctx past task := by
  refine Program.Confined.ensures h fun added x (hadded : Quiet added) => ?_
  have hquiet := hpast.append hadded
  refine ⟨(Conducted.failed hquiet).orderly, ?_⟩
  rw [hquiet.filter_writes, hwork]
  cases x with
  | ok v => exact .nothing _
  | error cause => exact .withheld

end Request

/-- A call that only reads does not act. -/
theorem Event.Yields.quiet {ctx : Context} {c : Call} {attempt : Event} {x : Except Failure c.Value}
    (h : attempt.Yields ctx c x) (hc : c.isWrite = false) (hc' : c.isLetter = false) : Quiet [attempt] := by
  refine quiet_singleton.mpr ?_
  cases h <;> simp [Event.acts, Event.writes, Event.handsOver, hc, hc']

/-- A step that only reads does not act. -/
theorem Step.quiet_read {ctx : Context} {c : Call} (hc : c.isWrite = false) (hc' : c.isLetter = false) :
    (ask ctx c).run.Confined fun e => e.acts = false :=
  fun _ => ensures_attempt fun attempt _ hyields => ⟨[attempt], rfl, hyields.quiet hc hc'⟩

variable {ctx : Context} {license : License} {past : List Event}

/-! ## Users -/

/-- To store a user conducts its request once the policy is met. -/
theorem Accounts.conducts_enroll {s : Accounts} {user : User} (hpast : Quiet past)
    (hmet : (Request.createUser user).Met license ctx past) :
    (Request.createUser user).Conducts license ctx past (.user <$> s.enroll ctx user) := by
  refine ensures_map.mpr (ensures_enroll fun added x henrolls => .of_met hpast hmet ?_)
  cases henrolls with
  | failed hyields =>
    cases hyields with
    | refused cause => exact .withheld
    | failed refusal => exact @Work.Writes.failed ctx _ ⟨.users (.create (sealed user)), .user⟩ refusal
  | stored created => exact @Work.Writes.done ctx _ ⟨.users (.create (sealed user)), .user⟩ created

/-! ## Organizations -/

namespace Organizations

variable {s : Organizations}

/-- The withdrawal of an organization writes nothing but its deletion. -/
theorem filter_withdrawal {id : Id} {undone : Except RepositoryError Unit} :
    (s.withdrawal id undone).filter Event.writes = [.insisted (.organizations (.delete id)) undone] := by
  cases undone <;> rfl

/-- To found an organization conducts its request once the policy is met. -/
theorem conducts_found {owner : Id} {organization : Organization} (hpast : Quiet past)
    (hmet : (Request.createOrganization owner organization).Met license ctx past) :
    (Request.createOrganization owner organization).Conducts license ctx past
      (.organization <$> s.found ctx owner organization) := by
  refine ensures_map.mpr (ensures_found fun added x hfounds => .of_met hpast hmet ?_)
  cases hfounds with
  | unfounded hyields =>
    cases hyields with
    | refused cause => exact .withheld
    | failed refusal => exact .unfounded refusal
  | founded created granted => exact .founded created granted
  | withdrawn created undone hyields =>
    cases hyields with
    | refused cause =>
      simp only [List.filter, Event.writes, Call.isWrite, filter_withdrawal]
      exact .interrupted created undone
    | failed refusal =>
      simp only [List.filter, Event.writes, Call.isWrite, entrusting, filter_withdrawal]
      exact .withdrawn created refusal undone

/-- Members are annotated one after the other, and nothing acts meanwhile. -/
theorem Annotates.quiet {span : String} {organization : Id} {members shown : List OrganizationMember} {es : List Event}
    (h : s.Annotates ctx span organization members es shown) : Quiet es := by
  induction h with
  | nil => exact quiet_nil
  | cons hsettles _ ih => exact hsettles.quiet.append ih

/-- To read the members changes nothing and hands nothing over. -/
theorem quiet_list {organization : Id} : (s.list ctx organization).run.Confined fun e => e.acts = false := by
  refine fun _ => ensures_list fun added x hshows => ⟨added, rfl, ?_⟩
  cases hshows with
  | unread hyields => exact hyields.quiet rfl rfl
  | shown hannotates => exact (quiet_singleton.mpr rfl).append hannotates.quiet

/-- What a member holds is revoked, one permission after the other, and then the member is removed. -/
theorem Strips.removing {organization user : Id} {held : List Permission} {es : List Event} {x : Except Failure Unit}
    (h : Strips ctx organization user held es x) :
    Removing ctx organization user held (es.filter Event.writes) (x.toOption.map fun _ => .nothing) := by
  induction h with
  | kept hyields =>
    cases hyields with
    | refused cause => exact .stopped
    | failed refusal => exact .kept refusal
  | removed => exact .removed
  | stuck hyields =>
    cases hyields with
    | refused cause => exact .stopped
    | failed refusal => exact .stuck refusal
  | revoked _ ih => exact .revoked ih

/-- To remove a member conducts its request once the policy is met. -/
theorem conducts_expel {organization user : Id} (hpast : Quiet past)
    (hmet : (Request.removeMember organization user).Met license ctx past) :
    (Request.removeMember organization user).Conducts license ctx past
      ((fun _ => .nothing) <$> expel ctx organization user) := by
  refine ensures_map.mpr (ensures_expel fun added x hexpels => ?_)
  cases hexpels with
  | unread hyields => exact .failed (hpast.append (hyields.quiet rfl rfl))
  | barred _ => exact .failed (hpast.append (quiet_singleton.mpr rfl))
  | @stripped permissions later x hcommon hstrips =>
    have hread : Quiet (past ++ [.answered ctx (.permissions (.getByTarget organization)) (.ok permissions)]) :=
      hpast.append (quiet_singleton.mpr rfl)
    have hwrites : (Request.removeMember organization user).work.Writes ctx _ _ _ :=
      .removal permissions (List.prefix_append _ later) hread (by simp) (fun permission hpermission hsubject hall => ?_)
        hstrips.removing
    · rw [List.append_cons]
      cases x <;> exact .of_met hread (hmet.mono (List.subset_append_left _ _)) hwrites
    · -- nobody who holds all rights passes the demand
      have hkind := List.all_eq_true.mp hcommon permission (List.mem_filter.mpr ⟨hpermission, beq_iff_eq.mpr hsubject⟩)
      simp [hall] at hkind

end Organizations

/-- Letters change no store. -/
theorem Correspondence.Sends.filter_writes {s : Correspondence} {name recipient : String} {letter : Letter} {data : TemplateData}
    {es : List Event} {x : Except ServiceError Unit} (h : s.Sends ctx name letter recipient data es x) :
    es.filter Event.writes = [] := by
  have hleft (note : Telemetry.SpanNote) : (s.equipment.left note).filter Event.writes = [] := by
    refine List.filter_eq_nil_iff.mpr fun e he => ?_
    cases e with
    | answered ctx c reply => cases Equipment.subject_left he
    | insisted c reply => cases Equipment.subject_left he
    | _ => exact Bool.false_ne_true
  have hrendering {path : String} {reply : Except TemplateError RenderedLetter} {rendering : List Event}
      (h : s.Renders path data reply rendering) : rendering.filter Event.writes = [] := by
    unfold Renders at h
    split at h
    · rw [h.2]
      rfl
    · rw [h]
      rfl
  cases h with
  | unrendered hrenders => simp [Equipment.enclosed, hleft, hrendering hrenders]
  | unsent hrenders hyields =>
    simp only [Equipment.enclosed, List.filter_append, hleft, hrendering hrenders]
    cases hyields <;> rfl
  | sent hrenders =>
    simp only [Equipment.enclosed, List.filter_append, hleft, hrendering hrenders]
    rfl

/-- To issue an invitation conducts its request once the policy is met. -/
theorem Organizations.conducts_write {s : Organizations} {organization user : Id} {path : String} (hpast : Quiet past)
    (hmet : (Request.invite organization user path).Met license ctx past) :
    (Request.invite organization user path).Conducts license ctx past
      ((fun _ => .nothing) <$> s.write ctx organization user path) := by
  refine ensures_map.mpr (ensures_write fun added x hissues => .of_met hpast hmet ?_)
  cases hissues with
  | unserved _ => exact .withheld
  | unread hyields => cases hyields <;> exact .withheld
  | unmet hyields => cases hyields <;> exact .withheld
  | @written _ _ _ writing x _ hsends =>
    simp only [List.filter, Event.writes, Call.isWrite, hsends.filter_writes]
    cases x with
    | ok v => exact .nothing _
    | error cause => exact .withheld

/-! ## The license -/

/-- To disclose the license changes nothing and hands nothing over. -/
theorem Licensing.quiet_disclose {s : Licensing} : (s.disclose ctx).run.Confined fun e => e.acts = false := by
  refine fun _ => ensures_disclose fun added x hdiscloses => ⟨added, rfl, ?_⟩
  cases hdiscloses with
  | asked hsettles => exact Equipment.quiet_enclosed (by decide) hsettles.quiet

/-! ## All tasks -/

/-- Behind its guards, an operation conducts its request. -/
theorem Request.conducts_task {p : Platform} {r : Request} {o : Outline} (h : r.outline? p ctx = some o) (hpast : Quiet past)
    (hmet : ∀ policy, r.policy? = some policy → policy.Met (p.licenseOf r) ctx past) :
    r.Conducts (p.licenseOf r) ctx past o.task := by
  have met {policy : Policy} (hpolicy : r.policy? = some policy) : r.Met (p.licenseOf r) ctx past :=
    ⟨policy, hpolicy, hmet policy hpolicy⟩
  cases r with
  | createUser user => cases h; exact Accounts.conducts_enroll hpast (met rfl)
  | updateUser id patch => cases h; exact conducts_deed rfl hpast (met rfl)
  | deleteUser id force => cases h; cases force <;> exact conducts_deed rfl hpast (met rfl)
  | createOrganization owner organization => cases h; exact Organizations.conducts_found hpast (met rfl)
  | updateOrganization id patch => cases h; exact conducts_deed rfl hpast (met rfl)
  | deleteOrganization id force => cases h; cases force <;> exact conducts_deed rfl hpast (met rfl)
  | addMember organization user => cases h; exact conducts_deed rfl hpast (met rfl)
  | removeMember organization user => cases h; exact Organizations.conducts_expel hpast (met rfl)
  | invite organization user path => cases h; exact Organizations.conducts_write hpast (met rfl)
  | grant permission => cases h; exact conducts_deed rfl hpast (met rfl)
  | revoke id => cases h; exact conducts_deed rfl hpast (met rfl)
  | getMembers organization => cases h; exact conducts_quiet rfl hpast (confined_map Organizations.quiet_list)
  | getLicense => cases h; exact conducts_quiet rfl hpast (confined_map Licensing.quiet_disclose)
  | _ => cases h <;> exact conducts_quiet rfl hpast (confined_map (quiet_read rfl rfl))

end Tenancy
