import Tenancy.Proofs.Request.Serve
import Tenancy.Proofs.Template.Markup

/-!
# Letters are sent once

A letter is rendered from a record of its own and handed to the sender once. With the built-in templates rendering cannot
fail, since the record of each letter has a value for every placeholder (`Mailing.coveredBy`); then the only failure there can
be is that of the sender, or of its context. An invitation is sent as the last step of a request, after all others have
gone well.
-/

namespace Tenancy

open Step Telemetry

/-- Whether an event is about handing a letter to the sender. -/
def Event.isSending (e : Event) : Bool :=
  match e.subject? with
  | some (.send _ _) => true
  | _ => false

/-- The attempts to hand a letter to the sender. -/
def sendings (es : List Event) : List Event := es.filter Event.isSending

theorem sendings_nil : sendings [] = [] := rfl

theorem sendings_append {es es' : List Event} : sendings (es ++ es') = sendings es ++ sendings es' := List.filter_append ..

/-- To send a letter is to make a call. -/
theorem sendings_calls (es : List Event) : sendings (calls es) = sendings es := by
  rw [sendings, sendings, calls, List.filter_filter]
  refine List.filter_congr fun e _ => ?_
  unfold Event.isSending
  cases e.subject? <;> simp

/-- Where nothing acts, nothing is sent. -/
theorem Quiet.sendings {es : List Event} (h : Quiet es) : Tenancy.sendings es = [] := by
  rw [Tenancy.sendings, List.filter_eq_nil_iff]
  intro e he sending
  have quiet := h e he
  unfold Event.isSending at sending
  split at sending
  · rename_i recipient letter subject
    cases e with
    | refused ctx c cause =>
      obtain rfl : c = .send recipient letter := Option.some.inj subject
      cases quiet
    | answered ctx c reply =>
      obtain rfl : c = .send recipient letter := Option.some.inj subject
      cases quiet
    | insisted c reply =>
      obtain rfl : c = .send recipient letter := Option.some.inj subject
      cases quiet
    | _ => cases subject
  · cases sending

/-- What is left with a tracer sends nothing. -/
theorem sendings_left {e : Equipment} {note : SpanNote} : sendings (e.left note) = [] := by
  rw [← sendings_calls, Equipment.calls_left, sendings_nil]

theorem sendings_enclosed {e : Equipment} {ctx : Context} {name : String} {inner : List Event} :
    sendings (e.enclosed ctx name inner) = sendings inner := by
  rw [← sendings_calls, Equipment.calls_enclosed, sendings_calls]

/-! ## Records of letters -/

/-- A letter that is to be written: which one, to whom, and what about. -/
inductive Mailing where
  | passwordReset (user : User) (path : String)
  | invitation (organization : Organization) (user : User) (path : String)
  | licenseExpiry (id email organization : String) (expiresAt : Time.Instant)
  | welcome (user : User)

namespace Mailing

/-- The letter that is written. -/
def letter : Mailing → Letter
  | passwordReset _ _ => .passwordReset
  | invitation _ _ _ => .organizationInvite
  | licenseExpiry _ _ _ _ => .licenseExpiryReminder
  | welcome _ => .userWelcome

/-- Whom it is for: the user, or the holder of the license. -/
def recipient : Mailing → String
  | passwordReset user _ => user.email
  | invitation _ user _ => user.email
  | licenseExpiry _ email _ _ => email
  | welcome user => user.email

/-- The record that it is rendered from. -/
def data (s : Correspondence) : Mailing → TemplateData
  | passwordReset user path => s.passwordResetData user path
  | invitation organization user path => s.invitationData organization user path
  | licenseExpiry id email organization expiresAt => s.licenseExpiryData id email organization expiresAt
  | welcome user => s.welcomeData user

/-- The operation that writes it. -/
def operation (s : Correspondence) (ctx : Context) : Mailing → Program (Except ServiceError Unit)
  | passwordReset user path => s.passwordReset ctx user path
  | invitation organization user path => s.invitation ctx organization user path
  | licenseExpiry id email organization expiresAt => s.licenseExpiry ctx id email organization expiresAt
  | welcome user => s.welcome ctx user

/-- The templates of the letter with the values of its record, which are escaped in the HTML body. -/
def rendered (s : Correspondence) (m : Mailing) : RenderedLetter where
  path := m.letter.path
  subject := Template.render (m.data s).value? m.letter.subject
  data := m.data s
  htmlBody := Template.renderHtml (m.data s).value? m.letter.htmlBody
  textBody := Template.render (m.data s).value? m.letter.textBody

/-- The call by which the letter is handed to the sender. -/
def call (s : Correspondence) (m : Mailing) : Call := .send m.recipient (m.rendered s)

/-- The record of a letter has a value for every placeholder. -/
theorem coveredBy (s : Correspondence) (m : Mailing) : m.letter.CoveredBy (m.data s) := by
  refine Letter.coveredBy_of_keys fun key hkey => ?_
  have names : m.letter.keys ⊆ (m.data s).map Prod.fst := by
    cases m with
    | passwordReset user path =>
      change Letter.passwordReset.keys ⊆ ["FirstName", "PasswordResetURL", "SupportEmail", "Username"]
      decide
    | invitation organization user path =>
      change Letter.organizationInvite.keys ⊆ ["FirstName", "InvitationURL", "OrganizationName", "SupportEmail", "Username"]
      decide
    | licenseExpiry id email organization expiresAt =>
      change Letter.licenseExpiryReminder.keys ⊆ ["LicenseEmail", "LicenseExpiresAt", "LicenseID", "LicenseOrganization",
        "RenewEmail", "ServerURL", "SupportEmail"]
      decide
    | welcome user =>
      change Letter.userWelcome.keys ⊆ ["FirstName", "Hostname", "ServerURL", "SupportEmail", "Username"]
      decide
  obtain ⟨entry, mem, rfl⟩ := List.mem_map.mp (names hkey)
  rw [TemplateData.value?, Option.isSome_map, List.find?_isSome]
  exact ⟨entry, mem, beq_self_eq_true _⟩

/-- The built-in templates render every letter. -/
theorem ofPath_data (s : Correspondence) (m : Mailing) :
    RenderedLetter.ofPath m.letter.path (m.data s) = .ok (m.rendered s) :=
  RenderedLetter.ofPath_path (m.coveredBy s)

/-- Rendering with the built-in templates is no more than filling them in. -/
theorem render_data {s : Correspondence} (builtIn : s.renderer = .builtIn) (m : Mailing) :
    s.render m.letter.path (m.data s) = pure (m.rendered s) := by
  unfold Correspondence.render
  rw [builtIn]
  change ExceptT.mk (pure ((RenderedLetter.ofPath m.letter.path (m.data s)).mapError Failure.template)) = _
  rw [m.ofPath_data s]
  rfl

end Mailing

/-! ## Writing a letter -/

namespace Correspondence

variable {s : Correspondence} {ctx : Context} {path recipient : String} {data : TemplateData} {es past : List Event}

/-- To render a letter is not to send it. -/
theorem Renders.sendings {reply : Except TemplateError RenderedLetter} {rendering : List Event}
    (h : s.Renders path data reply rendering) : Tenancy.sendings rendering = [] := by
  unfold Renders at h
  split at h
  · rw [h.2]
    rfl
  · rw [h]
    rfl

/-- The one attempt to send a letter, and the value that it gives the operation. -/
inductive Attempt (ctx : Context) (recipient : String) (letter : RenderedLetter) :
    Event → Except ServiceError Unit → Prop where
  /-- The context is done. -/
  | refused (cause : Interruption) :
    Attempt ctx recipient letter (.refused ctx (.send recipient letter) cause)
      (.error (.join .emailSend (.interruption cause)))
  | sent : Attempt ctx recipient letter (.answered ctx (.send recipient letter) (.ok ())) (.ok ())
  | failed (refusal : Refusal DeliveryError) :
    Attempt ctx recipient letter (.answered ctx (.send recipient letter) (.error refusal))
      (.error (.join .emailSend ((Call.send recipient letter).refused refusal)))

/-- A letter that is rendered is handed to the sender in one attempt. -/
theorem Sends.attempted {name : String} {letter : Letter} {r : Except ServiceError Unit}
    (h : s.Sends ctx name letter recipient data es r) :
    (∃ fault rendering, s.Renders letter.path data (.error fault) rendering ∧ ∃ e, r = .error e) ∨
      ∃ rendered rendering attempt, s.Renders letter.path data (.ok rendered) rendering ∧
        Tenancy.sendings es = [attempt] ∧ Attempt ctx recipient rendered attempt r := by
  cases h with
  | unrendered renders => exact .inl ⟨_, _, renders, _, rfl⟩
  | @unsent rendered rendering attempt cause renders hyields =>
    refine .inr ⟨rendered, rendering, attempt, renders, ?_, ?_⟩
    · rw [sendings_enclosed, sendings_append, sendings_append, renders.sendings, sendings_left]
      cases hyields <;> rfl
    · cases hyields with
      | refused cause => exact .refused cause
      | failed refusal => exact .failed refusal
  | @sent rendered rendering renders =>
    refine .inr ⟨rendered, rendering, _, renders, ?_, .sent⟩
    rw [sendings_enclosed, sendings_append, sendings_append, renders.sendings, sendings_left]
    rfl

end Correspondence

open Correspondence (Attempt)

/-! ## Requests for letters -/

/-- The context is live in every state on the way through some events. -/
def World.StaysLive {σ : Type} (w : World σ) (ctx : Context) (st : σ) (es : List Event) : Prop :=
  ∀ before st', before <+: es → w.Leads st before st' → w.interruption? st' ctx = none

namespace Mailing

/-- What is asked of the operation that writes a letter: that its record covers its templates, that it makes one attempt to
hand the letter to the sender and answers as that goes, and that the sender is called once unless the context is done. -/
structure SentOnce {σ : Type} (m : Mailing) (s : Correspondence) (ctx : Context) (w : World σ) (st : σ) : Prop where
  covered : m.letter.CoveredBy (m.data s)
  /-- It never fails for the template. -/
  rendered : ∀ e, ((m.operation s ctx).run w st).value = .error e → e.findCause? .template = none
  attempted : ∃ attempt, sendings ((m.operation s ctx).trace w st) = [attempt] ∧
    Attempt ctx m.recipient (m.rendered s) attempt ((m.operation s ctx).run w st).value
  live : w.StaysLive ctx st ((m.operation s ctx).trace w st) →
    ∃ reply : Except (Refusal DeliveryError) Unit,
      sendings ((m.operation s ctx).trace w st) = [.answered ctx (m.call s) reply] ∧
      (((m.operation s ctx).run w st).value = .ok () ↔ reply = .ok ())

section

variable {σ : Type} {s : Correspondence} {ctx : Context} {m : Mailing}

/-- The built-in templates give the letter that its record makes of them. -/
theorem eq_rendered (m : Mailing) (builtIn : s.renderer = .builtIn) {reply : Except TemplateError RenderedLetter}
    {rendering : List Event} (h : s.Renders m.letter.path (m.data s) reply rendering) : reply = .ok (m.rendered s) := by
  unfold Correspondence.Renders at h
  rw [builtIn] at h
  exact h.1.trans (m.ofPath_data s)

/-- Every letter is written in the same way. -/
theorem operation_eq_send (m : Mailing) (s : Correspondence) (ctx : Context) :
    ∃ name, m.operation s ctx = s.send ctx name m.letter m.recipient (m.data s) := by
  cases m <;> exact ⟨_, rfl⟩

/-- With the built-in templates there is an attempt to send every letter. -/
theorem ensures_attempted (builtIn : s.renderer = .builtIn) : (m.operation s ctx).Ensures [] fun es r =>
    ∃ attempt, sendings es = [attempt] ∧ Attempt ctx m.recipient (m.rendered s) attempt r := by
  obtain ⟨name, same⟩ := m.operation_eq_send s ctx
  rw [same]
  refine Correspondence.ensures_send fun es r hsends => ?_
  obtain ⟨fault, rendering, renders, -⟩ | ⟨rendered, rendering, attempt, renders, once, attempted⟩ := hsends.attempted
  · cases m.eq_rendered builtIn renders
  · obtain rfl := Except.ok.inj (m.eq_rendered builtIn renders)
    exact ⟨attempt, once, attempted⟩

/-- In a run during which the context stays live, no call is refused by it. -/
theorem not_refused {w : World σ} {st st' : σ} {es : List Event} (live : w.StaysLive ctx st es)
    (leads : w.Leads st es st') {c : Call} {cause : Interruption} : .refused ctx c cause ∉ es := by
  intro mem
  obtain ⟨before, after, rfl⟩ := List.append_of_mem mem
  obtain ⟨st₁, st₂, leads, moves, -⟩ := World.leads_middle.mp leads
  have alive := live before st₁ (List.prefix_append _ _) leads
  rw [moves.1] at alive
  cases alive

/-- With the built-in templates every letter is sent once. -/
theorem sentOnce (builtIn : s.renderer = .builtIn) (w : World σ) (st : σ) : m.SentOnce s ctx w st := by
  obtain ⟨attempt, once, attempted⟩ := (ensures_attempted builtIn).run w st
  rw [List.nil_append] at once
  refine ⟨m.coveredBy s, ?_, ⟨attempt, once, attempted⟩, fun live => ?_⟩
  · intro e failed
    rw [failed] at attempted
    cases attempted with
    | refused cause => rfl
    | failed refusal => cases refusal <;> rfl
  · generalize ((m.operation s ctx).run w st).value = r at attempted
    cases attempted with
    | refused cause =>
      have mem : Event.refused ctx (m.call s) cause ∈ (m.operation s ctx).trace w st := by
        have mem : Event.refused ctx (m.call s) cause ∈ sendings ((m.operation s ctx).trace w st) :=
          once ▸ List.mem_singleton_self _
        exact (List.mem_filter.mp mem).1
      exact (not_refused live (World.leads_trace w (m.operation s ctx) st) mem).elim
    | sent => exact ⟨.ok (), once, by simp⟩
    | failed refusal => exact ⟨.error refusal, once, by simp⟩

end

end Mailing

/-! ## Invitations -/

namespace Organizations

variable {σ : Type} {s : Organizations} {ctx : Context} {organization user : Id} {path : String}

/-- Everything that goes before the sending of an invitation has gone well. -/
structure Prepared (s : Organizations) (ctx : Context) (organization user : Id) (letters : Correspondence)
    (inviting : Organization) (invited : User) (es : List Event) : Prop where
  hasUsers : s.users.isSome = true
  hasLetters : s.correspondence = some letters
  namedOrganization : organization.names .organization = true
  namedUser : user.names .user = true
  granted : Granted ctx organization [.write] es
  readOrganization : .answered ctx (.organizations (.get organization)) (.ok inviting) ∈ es
  readUser : .answered ctx (.users (.get user)) (.ok invited) ∈ es

/-- What the events of an invitation come to. -/
inductive Invites (s : Organizations) (ctx : Context) (organization user : Id) (path : String) :
    List Event → Except ServiceError Unit → Prop where
  /-- Something goes wrong before, and nothing is sent. -/
  | stopped {es : List Event} {e : ServiceError} : sendings es = [] → Invites s ctx organization user path es (.error e)
  /-- All goes well before, and then the letter is written. -/
  | written {before added last : List Event} {letters : Correspondence} {inviting : Organization} {invited : User}
    {r : Except ServiceError Unit} : s.Prepared ctx organization user letters inviting invited before →
    sendings before = [] →
    letters.Sends ctx Correspondence.invitationSpan .organizationInvite invited.email
      (letters.invitationData inviting invited path) added r →
    sendings last = [] →
    Invites s ctx organization user path (before ++ (added ++ last))
      (r.mapError fun e => .join .organizationInvite e.toFailure)

/-- What is asked of an invitation: that it goes well only when the letter has been sent once, to the email that the invited
user has in the store, and that nothing is sent unless everything else has gone well before. -/
structure InvitesOnce (s : Organizations) (ctx : Context) (organization user : Id) (path : String) (w : World σ) (st : σ) :
    Prop where
  ok : ((s.invite ctx organization user path).run w st).value = .ok () →
    ∃ letters inviting invited letter,
      s.Prepared ctx organization user letters inviting invited ((s.invite ctx organization user path).trace w st) ∧
      sendings ((s.invite ctx organization user path).trace w st) = [.answered ctx (.send invited.email letter) (.ok ())] ∧
      (letters.renderer = .builtIn → letter = (Mailing.invitation inviting invited path).rendered letters)
  /-- What stands before the first event about the sender shows that all has gone well. -/
  earlier : sendings ((s.invite ctx organization user path).trace w st) ≠ [] →
    ∃ before added letters inviting invited,
      (s.invite ctx organization user path).trace w st = before ++ added ∧ sendings before = [] ∧
      s.Prepared ctx organization user letters inviting invited before

/-- What goes well before the sending has gone well afterwards, too. -/
theorem Prepared.mono {letters : Correspondence} {inviting : Organization} {invited : User} {es es' : List Event}
    (h : s.Prepared ctx organization user letters inviting invited es) (hsub : es ⊆ es') :
    s.Prepared ctx organization user letters inviting invited es' :=
  { h with
    granted := h.granted.mono hsub
    readOrganization := hsub h.readOrganization
    readUser := hsub h.readUser }

/-- Events in which nothing is sent make no difference at the end of an invitation. -/
theorem Invites.append {es last : List Event} {r : Except ServiceError Unit}
    (h : s.Invites ctx organization user path es r) (hlast : sendings last = []) :
    s.Invites ctx organization user path (es ++ last) r := by
  cases h with
  | stopped unsent =>
    refine .stopped ?_
    rw [sendings_append, unsent, hlast, List.append_nil]
  | written prepared unsent writes after =>
    rw [List.append_assoc, List.append_assoc]
    exact .written prepared unsent writes (by rw [sendings_append, after, hlast, List.append_nil])

/-- What comes of the task of an invitation is what comes of the letter, when all has gone well before. -/
theorem Issues.invites {past es : List Event} {r : Except Failure Unit} (h : s.Issues ctx organization user path es r)
    (hpast : Quiet past) (hasUsers : s.users.isSome = true) (namedOrganization : organization.names .organization = true)
    (namedUser : user.names .user = true) (hgranted : Granted ctx organization [.write] past) :
    s.Invites ctx organization user path (past ++ es) (r.mapError (.join .organizationInvite)) := by
  have before {es : List Event} (hes : sendings es = []) : sendings (past ++ es) = [] := by
    rw [sendings_append, hpast.sendings, hes, List.append_nil]
  cases h with
  | unserved _ => exact .stopped (before rfl)
  | unread hyields => exact .stopped (before (by cases hyields <;> rfl))
  | unmet hyields => exact .stopped (before (by cases hyields <;> rfl))
  | @written letters inviting invited writing r hasLetters sends =>
    have prepared : s.Prepared ctx organization user letters inviting invited
        (past ++ [.answered ctx (.organizations (.get organization)) (.ok inviting),
          .answered ctx (.users (.get user)) (.ok invited)]) :=
      ⟨hasUsers, hasLetters, namedOrganization, namedUser, hgranted.mono (List.subset_append_left _ _), by simp, by simp⟩
    have invites : s.Invites ctx organization user path _ _ := .written prepared (before rfl) sends sendings_nil
    rw [List.append_nil, List.append_assoc] at invites
    cases r with
    | ok v => exact invites
    | error e => exact invites

/-- Whatever comes of its calls, an invitation either is stopped before the letter or writes it. -/
theorem ensures_invites : (s.invite ctx organization user path).Ensures [] fun es r =>
    s.Invites ctx organization user path es r := by
  have houtline : (Request.invite organization user path).outline? s.platform ctx = some _ := rfl
  have hserve : (s.platform.serve ctx (.invite organization user path)).Ensures [] fun es x =>
      s.Invites ctx organization user path es (x.map fun _ => ()) := by
    refine Platform.ensures_outline houtline rfl (fun checked cause hcourse => ?_) fun checked hcourse => ?_
    · exact .stopped (Equipment.quiet_enclosed (Platform.home_ne_invitationSpan houtline) hcourse.quiet).sendings
    · have hfound := (hcourse.ok_iff (Request.apart_guards houtline)).mp rfl
      simp only [Guard.foundAll_cons, Guard.found_demand, Guard.found_right, Policy.Target.Found] at hfound
      obtain ⟨hasUsers, -, namedOrganization, namedUser, -, ⟨_, rfl, hgranted⟩, -⟩ := hfound
      have hlast : Quiet (s.equipment.left (.ended "service.organization/invite")) := Equipment.quiet_left rfl
      refine ensures_map.mpr (ensures_write fun added r hissues => ?_)
      have hinvites := hissues.invites (Platform.quiet_begun houtline hcourse.quiet) hasUsers namedOrganization namedUser
        (hgranted.mono (List.subset_append_right _ _))
      cases r with
      | ok u => exact hinvites.append hlast.sendings
      | error cause => exact hinvites.append hlast.sendings
  refine (Program.ensures_map.mp hserve).mono fun es r h => ?_
  cases r with
  | ok u => exact h
  | error cause => exact h

/-- An invitation is sent once, after all else has gone well. -/
theorem invitesOnce (w : World σ) (st : σ) : s.InvitesOnce ctx organization user path w st := by
  have invites : s.Invites ctx organization user path ([] ++ (s.invite ctx organization user path).trace w st)
      ((s.invite ctx organization user path).run w st).value := ensures_invites.run w st
  rw [List.nil_append] at invites
  generalize hvalue : ((s.invite ctx organization user path).run w st).value = r at invites
  generalize htrace : (s.invite ctx organization user path).trace w st = es at invites
  constructor
  · intro ok
    rw [htrace]
    rw [hvalue] at ok
    cases invites with
    | stopped _ => cases ok
    | @written before added last letters inviting invited r prepared unsent sends after =>
      obtain ⟨-, -, -, e, rfl⟩ | ⟨letter, rendering, attempt, renders, once, attempted⟩ := sends.attempted
      · cases ok
      · cases attempted with
        | refused cause => cases ok
        | failed refusal => cases ok
        | sent =>
          refine ⟨letters, inviting, invited, letter, prepared.mono (List.subset_append_left _ _), ?_, fun builtIn => ?_⟩
          · rw [sendings_append, sendings_append, unsent, once, after]
            rfl
          · exact Except.ok.inj ((Mailing.invitation inviting invited path).eq_rendered builtIn renders)
  · intro sent
    rw [htrace] at sent ⊢
    cases invites with
    | stopped unsent => exact absurd unsent sent
    | written prepared unsent writes after => exact ⟨_, _, _, _, _, rfl, unsent, prepared⟩

end Organizations

/-- **Letters are sent once.** With the built-in templates, and whatever the names, addresses, links and dates are, a letter
is rendered from a record that covers it, and there is one attempt to hand it to the sender, addressed to the user or to the
holder of the license; the sender is called once unless the context is done, and the operation goes well when the sender
does. An invitation goes well only when one letter has been sent to the email that is stored for the invited user, and the
sender is not called unless everything before has gone well. -/
theorem letters_sent_once :
    (∀ {σ : Type} (m : Mailing) (s : Correspondence) (ctx : Context) (w : World σ) (st : σ),
      s.renderer = .builtIn → m.SentOnce s ctx w st) ∧
    ∀ {σ : Type} (s : Organizations) (ctx : Context) (organization user : Id) (path : String) (w : World σ) (st : σ),
      s.InvitesOnce ctx organization user path w st :=
  ⟨fun _ _ _ w st builtIn => Mailing.sentOnce builtIn w st, fun _ _ _ _ _ w st => Organizations.invitesOnce w st⟩

/-- A world in which every context is live and the sender takes every letter. -/
def World.postal : World Unit where
  time _ := Store.creation
  interruption? _ _ := none
  answer st _ c :=
    match c with
    | .send _ _ => (.ok (), st)
    | _ => (.error (.interrupted .canceled), st)
  insist st c :=
    match c with
    | .send _ _ => (.ok (), st)
    | .users _ => (.error RepositoryError.notFound, st)
    | .organizations _ => (.error RepositoryError.notFound, st)
    | .permissions _ => (.error RepositoryError.notFound, st)
    | .access _ => (.error PermissionError.read, st)
    | .count _ => (.error RepositoryError.notFound, st)
    | .render path _ => (.error (TemplateError.notFound path), st)
  survey st _ _ := ([], [], st)

/-- The organizations of a platform that writes letters, too. -/
def Platform.postal : Organizations :=
  { (Platform.bare 5).organizations with
    users := some ⟨"users"⟩
    correspondence := some (Platform.bare 5).correspondence }

/-- An organization, a user to invite, and the first user who may write to the organization. -/
def Scene.postal : Scene where
  store :=
    ({ users := [{ User.fresh "ada" "ada@example.com" "secret" with id := Id.nth .user 2 }]
       organizations := [{ Organization.fresh "acme" "" with id := Id.nth .organization 1 }] } : Store).withPermission
      (Permission.fresh (Id.nth .user 1) (Id.nth .organization 1) .write)
  today := Store.creation

/-- A welcome is sent once, and so is an invitation to a user in the store by one who may write to the organization. -/
theorem letters_sent_once_delivered :
    let letters := (Platform.bare 5).correspondence
    let welcome := Mailing.welcome (.fresh "ada" "ada@example.com" "secret")
    let invitation := Platform.postal.invite Platform.firstUser (Id.nth .organization 1) (Id.nth .user 2) "/join"
    letters.renderer = .builtIn ∧
      (∃ reply : Except (Refusal DeliveryError) Unit,
        sendings ((welcome.operation letters Platform.firstUser).trace World.postal ()) =
          [.answered Platform.firstUser (welcome.call letters) reply] ∧
        (((welcome.operation letters Platform.firstUser).run World.postal ()).value = .ok () ↔ reply = .ok ())) ∧
      (invitation.run Scene.world Scene.postal).value = .ok () ∧
      ∃ invited letter, sendings (invitation.trace Scene.world Scene.postal) =
        [.answered Platform.firstUser (.send (invited : User).email letter) (.ok ())] := by
  refine ⟨rfl, ?_, ?_⟩
  · exact (letters_sent_once.1 (.welcome _) _ Platform.firstUser World.postal () rfl).live fun _ _ _ _ => rfl
  · have rendered : ∀ inviting invited, (Platform.bare 5).correspondence.render Letter.organizationInvite.path
        ((Platform.bare 5).correspondence.invitationData inviting invited "/join") =
          pure ((Mailing.invitation inviting invited "/join").rendered (Platform.bare 5).correspondence) :=
      fun inviting invited => Mailing.render_data rfl (.invitation inviting invited "/join")
    have ok : ((Platform.postal.invite Platform.firstUser (Id.nth .organization 1) (Id.nth .user 2) "/join").run
        Scene.world Scene.postal).value = .ok () := by
      -- the text of the letter makes no difference to the run, and it is never written out
      unfold Organizations.invite Correspondence.invitation Correspondence.send
      simp only [Platform.postal, rendered]
      rfl
    obtain ⟨letters, inviting, invited, letter, -, once, -⟩ := (letters_sent_once.2 Platform.postal Platform.firstUser
      (Id.nth .organization 1) (Id.nth .user 2) "/join" Scene.world Scene.postal).ok ok
    exact ⟨ok, invited, letter, once⟩

end Tenancy
