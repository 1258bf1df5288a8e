import Tenancy.Proofs.Operation.Exits
import Tenancy.Proofs.Operation.Setup
import Tenancy.Proofs.Request.Conduct
import Tenancy.Proofs.World.Register

/-!
# Owners among the members of an organization

When the members of an organization are read, one question is put about each of them, in their order: whether they hold all
rights on the organization. Those of whom this is found are shown with the role of an owner besides their own roles, and nobody
is shown otherwise than they are stored (`LookedUp`). What comes of one question makes no difference to the other members, nor
to whether the members are shown at all.
-/

namespace Tenancy

open List (Forall₂)
open Step

/-! ## A member -/

namespace OrganizationMember

/-- The question that is put about a member. -/
def lookup (organization : Id) (member : OrganizationMember) : AccessCall :=
  .hasPermission member.user.id organization [.all]

/-- A member is shown as they are stored, and with the role of an owner if they are one. -/
structure ShownAs (member : OrganizationMember) (owner : Prop) (shown : OrganizationMember) : Prop where
  user : shown.user = member.user
  roles : ∀ label, shown.roles.contains label = true ↔
    member.roles.contains label = true ∨ owner ∧ label = ownerRole

variable {member : OrganizationMember} {owner owner' : Prop}

/-- A member who is no owner is shown as stored. -/
theorem shownAs_self (h : ¬owner) : member.ShownAs owner member := ⟨rfl, fun _ => by simp [h]⟩

/-- An owner is shown with the label of owners. -/
theorem shownAs_owner (h : owner) : member.ShownAs owner { member with roles := member.roles.insert ownerRole } := by
  refine ⟨rfl, fun label => ?_⟩
  simp only [LabelSet.contains, LabelSet.insert, List.contains_iff_mem, LabelSet.mem_insertItem, h, true_and]
  exact or_comm

/-- Members are shown by whether they are owners, however that is put. -/
theorem ShownAs.congr {shown : OrganizationMember} (h : member.ShownAs owner shown) (howner : owner ↔ owner') :
    member.ShownAs owner' shown :=
  ⟨h.user, fun label => (h.roles label).trans (by rw [howner])⟩

end OrganizationMember

/-- Members, what came of the questions about them, and how they are shown. -/
inductive LookedUp (ctx : Context) (organization : Id) :
    List OrganizationMember → List Event → List OrganizationMember → Prop where
  | nil : LookedUp ctx organization [] [] []
  | cons {member shown : OrganizationMember} {attempt : Event} {members others : List OrganizationMember}
    {attempts : List Event} : attempt.Attempts ctx (.access (member.lookup organization)) →
    member.ShownAs (attempt = .answered ctx (.access (member.lookup organization)) (.ok true)) shown →
    LookedUp ctx organization members attempts others →
    LookedUp ctx organization (member :: members) (attempt :: attempts) (shown :: others)

/-- The members are shown in their order. -/
theorem LookedUp.users {ctx : Context} {organization : Id} {members shown : List OrganizationMember} {attempts : List Event}
    (h : LookedUp ctx organization members attempts shown) : shown.map (·.user) = members.map (·.user) := by
  induction h with
  | nil => rfl
  | cons _ shows _ ih => rw [List.map_cons, List.map_cons, shows.user, ih]

/-- Nothing is asked but questions about access. -/
theorem LookedUp.concern {ctx : Context} {organization : Id} {members shown : List OrganizationMember}
    {attempts : List Event} (h : LookedUp ctx organization members attempts shown) : Concern Call.IsAccess attempts := by
  induction h with
  | nil => exact fun e he => nomatch he
  | cons attempts _ _ ih =>
    refine List.forall_mem_cons.mpr ⟨fun c hc => ?_, ih⟩
    exact ⟨_, Option.some.inj (hc.symm.trans attempts.subject)⟩

/-- When what comes of the questions is so, those are shown as owners of whom it is so. -/
theorem LookedUp.owners {ctx : Context} {organization : Id} {members shown : List OrganizationMember} {attempts : List Event}
    {owns : OrganizationMember → Prop} (h : LookedUp ctx organization members attempts shown)
    (howns : ∀ attempt ∈ attempts, ∀ member : OrganizationMember,
      attempt.Attempts ctx (.access (member.lookup organization)) →
      (attempt = .answered ctx (.access (member.lookup organization)) (.ok true) ↔ owns member)) :
    Forall₂ (fun member member' => member.ShownAs (owns member) member') members shown := by
  induction h with
  | nil => exact .nil
  | cons attempts shows _ ih =>
    obtain ⟨hfirst, hrest⟩ := List.forall_mem_cons.mp howns
    exact .cons (shows.congr (hfirst _ attempts)) (ih hrest)

/-! ## What is done for them -/

namespace Organizations

variable {s : Organizations} {ctx : Context} {organization : Id} {past : List Event} {span : String}

/-- Members are looked up one after the other, and shown as what comes of the questions about them says. -/
theorem Annotates.lookedUp (stored : s.equipment.permissions.isSome = true) {members shown : List OrganizationMember}
    {es : List Event} (h : s.Annotates ctx span organization members es shown) :
    LookedUp ctx organization members (calls es) shown := by
  obtain ⟨store, hstore⟩ := Option.isSome_iff_exists.mp stored
  induction h with
  | nil => exact .nil
  | @cons member members others asking later owns hsettles _ ih =>
    have hquestion : s.equipment.question? member.user.id organization [.all] = some (member.lookup organization) :=
      Option.map_eq_some_iff.mpr ⟨store, hstore, rfl⟩
    rw [hquestion] at hsettles
    cases hsettles with
    | unasked hnone => cases hnone
    | asked hsome attempts hyes =>
      cases hsome
      rw [calls_append, Equipment.calls_lookup attempts]
      refine .cons attempts ?_ ih
      cases owns with
      | true => exact OrganizationMember.shownAs_owner (hyes.mp rfl)
      | false => exact OrganizationMember.shownAs_self fun heq => Bool.false_ne_true (hyes.mpr heq)

/-- What the events of reading members come to. -/
inductive Lists (ctx : Context) (organization : Id) : List Event → Except ServiceError (List OrganizationMember) → Prop where
  | misnamed : organization.names .organization = false →
    Lists ctx organization [] (.error (.join .organizationGetMembers (.service .invalidId)))
  /-- The context is done. -/
  | refused (cause : Interruption) :
    Lists ctx organization [.refused ctx (.organizations (.getMembers organization)) cause]
      (.error (.join .organizationGetMembers (.interruption cause)))
  | failed (refusal : Refusal RepositoryError) :
    Lists ctx organization [.answered ctx (.organizations (.getMembers organization)) (.error refusal)]
      (.error (.join .organizationGetMembers ((Call.organizations (.getMembers organization)).refused refusal)))
  | shown {members shown : List OrganizationMember} {attempts : List Event} :
    LookedUp ctx organization members attempts shown →
    Lists ctx organization (.answered ctx (.organizations (.getMembers organization)) (.ok members) :: attempts) (.ok shown)

/-- The members of an organization are read at once, and then looked up. -/
theorem ensures_getMembers (stored : s.equipment.permissions.isSome = true) :
    (s.getMembers ctx organization).Ensures [] fun es r => Lists ctx organization (calls es) r := by
  -- the moments of the span are about no call
  have whole (inner : List Event) : calls ([] ++ s.equipment.left (.started "service.organization/get_members" ctx.principal) ++
      inner ++ s.equipment.left (.ended "service.organization/get_members")) = calls inner := by
    simp
  refine Equipment.ensures_operation.mpr (ensures_bind.mpr (Guard.ensures_demand_iff.mpr ?_))
  cases named : organization.names .organization with
  | false =>
    change Lists ctx organization (calls _) (.error (.join .organizationGetMembers (.service .invalidId)))
    rw [← List.append_nil ([] ++ _), whole]
    exact .misnamed named
  | true =>
    refine ensures_list fun added y hshows => ?_
    rw [whole]
    cases hshows with
    | unread hyields =>
      rw [hyields.attempts.calls_cons]
      cases hyields with
      | refused cause => exact .refused cause
      | failed refusal => exact .failed refusal
    | shown hannotates => exact .shown (hannotates.lookedUp stored)

/-- To read members changes nothing and hands nothing over. -/
theorem quiet_getMembers : (s.getMembers ctx organization).Confined fun e => e.acts = false :=
  Equipment.quiet_span (by decide) (Program.Confined.map (confined_bind confined_demand fun _ => quiet_list))

end Organizations

/-! ## What is registered -/

section

variable {σ : Type} {w : World σ} {s : σ} {ctx : Context} {register : σ → Register}

/-- When no call fails in a run that changes nothing, lookups are answered from what is registered at first. -/
theorem Register.attempt_iff {α : Type} {p : Program α} (hw : w.Follows register Turns) (hquiet : Quiet (p.trace w s))
    (unfailing : failings (p.trace w s) = []) {a : AccessCall} {attempt : Event} (hmem : attempt ∈ p.trace w s)
    (attempts : attempt.Attempts ctx (.access a)) :
    attempt = .answered ctx (.access a) (.ok true) ↔ (register s).Answers a := by
  have settled : attempt.failing? = none := List.filterMap_eq_nil_iff.mp unfailing attempt hmem
  obtain ⟨R, hturns⟩ := hw.early_of_quiet isSteady_turns (w.leads_trace p s) List.prefix_rfl hquiet hmem
  obtain ⟨cause, rfl⟩ | ⟨reply, rfl⟩ := attempts
  · cases settled
  · cases reply with
    | error refusal => cases settled
    | ok yes =>
      rw [← hturns.truthful a yes rfl]
      refine ⟨fun heq => by cases heq; rfl, fun hyes => ?_⟩
      exact congrArg (fun v : (Call.access a).Value => Event.answered ctx (.access a) (.ok v)) hyes

/-- A member is asked about all rights and nothing else. -/
theorem Register.answers_lookup_iff {R : Register} {organization : Id} {member : OrganizationMember} :
    R.Answers (member.lookup organization) ↔ R.Holds member.user.id organization .all := by
  simp [OrganizationMember.lookup, Answers]

/-- **Owners among the members.** When members of an organization are shown, they are all those that were read, in the same
order, each with their own roles and with that of an owner exactly if it was found under a live context that they hold all
rights; once they have been read, they are shown whatever comes of the questions about them. When no call fails, and lookups
are answered from what is registered, the role of an owner marks those who hold all rights. -/
theorem owners_annotated {offers : List (Offer Handle)} {service : Organizations}
    (h : Organizations.ofOffers offers = .ok service) (w : World σ) (s : σ) (ctx : Context) (organization : Id) :
    let listing := service.getMembers ctx organization
    let read (members : List OrganizationMember) : Event :=
      .answered ctx (.organizations (.getMembers organization)) (.ok members)
    (∀ shown, (listing.run w s).value = .ok shown →
      ∃ members attempts, calls (listing.trace w s) = read members :: attempts ∧
        LookedUp ctx organization members attempts shown) ∧
    (∀ members, read members ∈ listing.trace w s →
      ∃ shown, (listing.run w s).value = .ok shown ∧ shown.map (·.user) = members.map (·.user)) ∧
    ∀ register, w.Follows register Register.Turns → failings (listing.trace w s) = [] →
      ∀ shown, (listing.run w s).value = .ok shown → ∃ members, read members ∈ listing.trace w s ∧
        Forall₂ (fun member member' => member.ShownAs ((register s).Holds member.user.id organization .all) member')
          members shown := by
  intro listing read
  have lists : Organizations.Lists ctx organization (calls (listing.trace w s)) (listing.run w s).value :=
    (Organizations.ensures_getMembers (Organizations.stored_of_ofOffers h)).run w s
  have hshown : ∀ shown, (listing.run w s).value = .ok shown → ∃ members attempts,
      calls (listing.trace w s) = read members :: attempts ∧ LookedUp ctx organization members attempts shown := by
    intro shown hvalue
    rw [hvalue] at lists
    generalize calls (listing.trace w s) = es at lists
    cases lists with
    | shown looked => exact ⟨_, _, rfl, looked⟩
  refine ⟨hshown, fun members hread => ?_, fun register hw unfailing shown hvalue => ?_⟩
  · have hread : read members ∈ calls (listing.trace w s) := (mem_calls_iff rfl).mpr hread
    generalize calls (listing.trace w s) = es at lists hread
    generalize (listing.run w s).value = r at lists
    cases lists with
    | misnamed named => cases hread
    | refused cause => cases List.mem_singleton.mp hread
    | failed refusal => cases List.mem_singleton.mp hread
    | shown looked =>
      rcases List.mem_cons.mp hread with hread | hread
      · cases hread
        exact ⟨_, rfl, looked.users⟩
      · obtain ⟨a, ha⟩ := looked.concern.answered hread
        cases ha
  · obtain ⟨members, attempts, hcalls, looked⟩ := hshown shown hvalue
    have hmem : ∀ e ∈ read members :: attempts, e ∈ listing.trace w s := by
      rw [← hcalls]
      exact fun e he => (List.mem_filter.mp he).1
    have hquiet : Quiet (listing.trace w s) := Organizations.quiet_getMembers.trace w s
    refine ⟨members, hmem _ List.mem_cons_self, looked.owners fun attempt hattempt member attempts => ?_⟩
    rw [← Register.answers_lookup_iff]
    exact Register.attempt_iff hw hquiet unfailing (hmem _ (List.mem_cons_of_mem _ hattempt)) attempts

end

/-! ## A scene -/

/-- A scene with an organization of two, of whom the first holds all rights and the second has a role of their own. -/
def Scene.chaired (faults : (c : Call) → Option c.Fault) : Scene where
  store :=
    let organization := Id.nth .organization 1
    let founded : Store :=
      { users :=
          [{ User.fresh "ada" "a@b.c" "" with id := Id.nth .user 1 },
            { User.fresh "bob" "b@b.c" "" with id := Id.nth .user 2 }]
        memberships :=
          [⟨organization, Id.nth .user 1, LabelSet.empty⟩, ⟨organization, Id.nth .user 2, LabelSet.empty.insert "Clerk"⟩] }
    founded.withPermission (Permission.fresh (Id.nth .user 1) organization .all)
  faults
  today := Store.creation

/-- The lookup of one member fails, and the other is shown as an owner nevertheless; when no lookup fails, the role of an owner
marks the one who holds all rights. -/
theorem owners_annotated_chaired :
    let service : Organizations := ⟨(Platform.bare 5).organizations.equipment, (Platform.bare 5).licensing, none, none⟩
    let listing := service.getMembers Platform.firstUser (Id.nth .organization 1)
    let failing := Scene.chaired fun
      | .access (.hasPermission subject _ _) => if subject = Id.nth .user 2 then some .read else none
      | _ => none
    let whole := Scene.chaired fun _ => none
    let chairs (member : OrganizationMember) := whole.register.Holds member.user.id (Id.nth .organization 1) .all
    (∃ shown, (listing.run Scene.world failing).value = .ok shown ∧ shown.map (·.user) = failing.store.users ∧
      shown.map (·.roles.items) = [["Owner"], ["Clerk"]]) ∧
    ∃ shown, (listing.run Scene.world whole).value = .ok shown ∧ ∃ members,
      Forall₂ (fun (member member' : OrganizationMember) => member.ShownAs (chairs member) member') members shown := by
  intro service listing failing whole chairs
  have setUp : Organizations.ofOffers [Platform.organizationStore, Platform.permissions,
      Platform.offer .licensing (Platform.bare 5).licensing] = .ok service := rfl
  obtain ⟨-, hread, -⟩ := owners_annotated setUp Scene.world failing Platform.firstUser (Id.nth .organization 1)
  obtain ⟨-, -, hregister⟩ := owners_annotated setUp Scene.world whole Platform.firstUser (Id.nth .organization 1)
  constructor
  · obtain ⟨shown, hvalue, husers⟩ := hread _ List.mem_cons_self
    exact ⟨shown, hvalue, husers, congrArg (List.map (·.roles.items)) (Except.ok.inj hvalue).symm⟩
  · obtain ⟨members, -, hshown⟩ := hregister Scene.register Scene.follows_register rfl _ rfl
    exact ⟨_, rfl, members, hshown⟩

end Tenancy
