import Tenancy.Proofs.Mail.Mailable
import Tenancy.Proofs.Record.Validity
import Tenancy.Proofs.Request.Outline

/-!
# Recipients of mail

The email of a user is judged when the record is taken, and once more when mail is sent to it. The second judgement is not
implied by the first: which of the accepted addresses can be recipients is said exactly (`recipient_iff`), and an accepted one
that cannot is shown.
-/

namespace Tenancy

open Text Mail Mailbox

/-! ## Accepted addresses -/

/-- An email that the rules of users or of their patches accept, by themselves or in an operation that takes the record. -/
inductive AcceptedEmail : String → Prop where
  | user {u : User} : u.Valid → AcceptedEmail u.email
  | patch {p : UserPatch} {email : String} : p.Valid → p.email = some email → AcceptedEmail email
  | created {σ : Type} {w : World σ} {st : σ} {s : Accounts} {ctx : Context} {u stored : User} :
      ((s.create ctx u).run w st).value = .ok stored → AcceptedEmail u.email
  | updated {σ : Type} {w : World σ} {st : σ} {s : Accounts} {ctx : Context} {id : Id} {p : UserPatch} {stored : User}
      {email : String} : ((s.update ctx id p).run w st).value = .ok stored → p.email = some email → AcceptedEmail email

/-- The rules of an email. -/
def KeepsEmailRules (email : String) : Prop := email.length ≤ 254 ∧ Address.isAddress email = true

/-- The email of a valid user keeps the rules for emails. -/
theorem User.Valid.email {u : User} (h : u.Valid) : KeepsEmailRules u.email := by
  have kept := RuledField.broken_eq_nil_iff.mp
    (violations_eq_nil_iff.mp h ⟨"email", (some ·.email), [.length none (some 254), .email]⟩ (by simp [rules, userRules]))
    u.email rfl
  have short := kept (.length none (some 254)) (by simp)
  have address := kept .email (by simp)
  exact ⟨by simpa [Rule.holds] using short, address⟩

/-- The email that a valid patch sets keeps the rules for emails. -/
theorem UserPatch.Valid.email {p : UserPatch} {email : String} (h : p.Valid) (set : p.email = some email) :
    KeepsEmailRules email := by
  have kept := RuledField.broken_eq_nil_iff.mp
    (violations_eq_nil_iff.mp h ⟨"email", (·.email), [.length none (some 254), .email]⟩ (by simp [rules, userRules]))
    email set
  have short := kept (.length none (some 254)) (by simp)
  have address := kept .email (by simp)
  exact ⟨by simpa [Rule.holds] using short, address⟩

/-! ## Operations that take records -/

namespace Accounts

variable {σ : Type} {w : World σ} {st : σ} {s : Accounts} {ctx : Context}

/-- A user is created only when it breaks no rule. -/
theorem valid_of_create {u stored : User} (h : ((s.create ctx u).run w st).value = .ok stored) : u.Valid := by
  have hvalue : ((s.platform.serve ctx (.createUser u)).run w st).value = .ok (.user stored) :=
    Platform.value_respond.trans (congrArg (Except.map Response.user) h)
  have hfound := Platform.foundAll_of_ok rfl hvalue
  exact List.isEmpty_iff.mp (hfound (.valid .invalidUser u.violations) (by simp))

/-- A patch is applied only when it breaks no rule. -/
theorem valid_of_update {id : Id} {p : UserPatch} {stored : User}
    (h : ((s.update ctx id p).run w st).value = .ok stored) : p.Valid := by
  have hvalue : ((s.platform.serve ctx (.updateUser id p)).run w st).value = .ok (.user stored) :=
    Platform.value_respond.trans (congrArg (Except.map Response.user) h)
  have hfound := Platform.foundAll_of_ok rfl hvalue
  exact List.isEmpty_iff.mp (hfound (.valid .invalidUser p.violations) (by simp [Outline.ofCall]))

end Accounts

/-- Every accepted email keeps the rules for emails. -/
theorem AcceptedEmail.rules {email : String} (h : AcceptedEmail email) : KeepsEmailRules email := by
  cases h with
  | user valid => exact valid.email
  | patch valid set => exact valid.email set
  | created ok => exact (Accounts.valid_of_create ok).email
  | updated ok set => exact (Accounts.valid_of_update ok).email set

/-! ## The judgement of senders -/

section

variable {email : String} {user host : List Char} (h : Address.Parts email user host)
include h

/-- A sender takes a recipient whose parts mail can be sent to. -/
theorem submission_iff (s : Sender) : (∃ submission, s.submission email = .ok submission) ↔ Mailable user host := by
  rw [← parse_parts h]
  unfold Sender.submission
  cases parse email with
  | ok mailbox => simp
  | error reason => simp

/-- Sending fails for the recipient when its parts are not such that mail can be sent to them, and for no other reason. -/
theorem send_recipient_iff (s : Sender) (relay : Relay) (timeline : Timeline) (ctx : Context) (wait : Nat) :
    (∃ detail, s.send relay timeline ctx wait email = .error (.recipient detail)) ↔ ¬Mailable user host := by
  rw [← parse_parts h]
  have classes : ∀ text detail, Sender.classify text ≠ .recipient detail := by
    intro text detail
    unfold Sender.classify
    split
    · exact nofun
    · split <;> exact nofun
  unfold Sender.send Sender.submission
  cases parse email with
  | error reason => simp
  | ok mailbox =>
    refine iff_of_false ?_ (not_not.mpr ⟨mailbox, rfl⟩)
    rintro ⟨detail, failed⟩
    dsimp only at failed
    split at failed
    · cases failed
    · cases failed
    · split at failed
      · cases failed
      · exact classes _ _ (Except.error.inj failed)

/-- The atoms of a local part are the pieces between its dots: none may be empty. -/
theorem dotAtom_user_iff : DotAtom user ↔ ∀ atom ∈ splitAll '.' user, atom ≠ [] := by
  rw [dotAtom_iff]
  refine forall₂_congr fun atom piece => ⟨And.left, fun some => ⟨some, fun c mem => ?_⟩⟩
  obtain ⟨mem, apart⟩ := mem_of_mem_splitAll piece mem
  exact (isAtomChar_of_isLocalChar (h.chars c mem) apart).1

end

section

variable {user host : List Char}

/-- Where the domain is a host name, only the local part can stand in the way. -/
theorem mailable_iff_of_isDomain (h : Address.isDomain host = true) (short : host.length ≤ 254) :
    Mailable user host ↔ DotAtom user := by
  have same := bare_of_isDomain h
  refine ⟨Mailable.userAtoms, fun dots => ⟨dots, ?_, ?_⟩⟩
  · rw [same]
    exact dotAtom_of_isDomain h
  · rw [same, isDomain, isHost_of_isDomain h short, Bool.true_or]

/-- Where the domain stands for a host name, only the local part can stand in the way. -/
theorem mailable_iff_of_toAscii {ascii : List Char} (stands : Net.Idna.toAscii? (bare host) = some ascii)
    (h : Address.isDomain ascii = true) (short : ascii.length ≤ 254) (dots : DotAtom (bare host)) :
    Mailable user host ↔ DotAtom user := by
  refine ⟨Mailable.userAtoms, fun dots' => ⟨dots', dots, ?_⟩⟩
  simp only [isDomain, stands, isHost_of_isDomain h short, Bool.or_true]

end

/-! ## Every accepted address -/

/-- **Which accepted addresses can be mailed.** An accepted email is a local part and a host around its last `@`. It is
taken as a recipient when both are atoms joined by dots and the host can be addressed, and sending to it fails for the
recipient otherwise. With a host name, in ASCII or standing for one in ASCII, only empty atoms of the local part can stand in
the way; an address in brackets always does. -/
theorem recipient_iff (email : String) (accepted : AcceptedEmail email) :
    ∃ user host, splitLast? '@' email.toList = some (user, host) ∧ email.toList = user ++ '@' :: host ∧
      (∀ s : Sender, (∃ submission, s.submission email = .ok submission) ↔ Mailable user host) ∧
      (∀ (s : Sender) (relay : Relay) (timeline : Timeline) (ctx : Context) (wait : Nat),
        (∃ detail, s.send relay timeline ctx wait email = .error (.recipient detail)) ↔ ¬Mailable user host) ∧
      (DotAtom user ↔ ∀ atom ∈ splitAll '.' user, atom ≠ []) ∧
      (Address.isDomain host = true → (Mailable user host ↔ DotAtom user)) ∧
      (∀ ascii, Net.Idna.toAscii? (bare host) = some ascii → Address.isDomain ascii = true → ascii.length ≤ 254 →
        DotAtom (bare host) → (Mailable user host ↔ DotAtom user)) ∧
      (Address.endsInLiteral host = true → ¬Mailable user host) := by
  obtain ⟨short, address⟩ := accepted.rules
  obtain ⟨user, host, parts⟩ := Address.exists_parts address
  have length : host.length ≤ 254 := by
    rw [← String.length_toList, parts.whole, List.length_append, List.length_cons] at short
    omega
  refine ⟨user, host, parts.cut, parts.whole, submission_iff parts, send_recipient_iff parts, dotAtom_user_iff parts,
    fun name => mailable_iff_of_isDomain name length, fun ascii stands name bound dots => ?_, ?_⟩
  · exact mailable_iff_of_toAscii stands name bound dots
  · intro literal mailable
    exact not_dotAtom_of_endsInLiteral literal mailable.hostAtoms

/-- A common address is accepted, and taken by every sender. -/
theorem recipient_iff_common : AcceptedEmail "ada.lovelace@example.com" ∧
    ∀ s : Sender, ∃ submission, s.submission "ada.lovelace@example.com" = .ok submission := by
  have accepted : AcceptedEmail "ada.lovelace@example.com" :=
    .user (u := .fresh "ada" "ada.lovelace@example.com" "secret") (by decide +kernel)
  refine ⟨accepted, fun s => ?_⟩
  obtain ⟨user, host, cut, -, taken, -, atoms, names, -, -⟩ := recipient_iff "ada.lovelace@example.com" accepted
  have cut' : splitLast? '@' "ada.lovelace@example.com".toList = some ("ada.lovelace".toList, "example.com".toList) := by
    decide +kernel
  obtain ⟨rfl, rfl⟩ := Prod.mk.inj (Option.some.inj (cut'.symm.trans cut))
  exact (taken s).mpr ((names (by decide +kernel)).mpr (atoms.mpr (by decide +kernel)))

/-- A local part with two dots in a row is accepted, in a user and in a patch, and no mail can be sent to it. -/
theorem dotted_recipient_refused :
    (User.fresh "ada" "a..b@x.y" "secret").Valid ∧ ({ email := some "a..b@x.y" } : UserPatch).Valid ∧
      (∀ s : Sender, s.submission "a..b@x.y" = .error (.recipient "a..b@x.y: Invalid input")) ∧
      ¬∀ email, AcceptedEmail email → ∀ s : Sender, ∃ submission, s.submission email = .ok submission := by
  have valid : (User.fresh "ada" "a..b@x.y" "secret").Valid := by decide +kernel
  have unread : parse "a..b@x.y" = .error .input := by decide +kernel
  have refused : ∀ s : Sender, s.submission "a..b@x.y" = .error (.recipient "a..b@x.y: Invalid input") := by
    intro s
    rw [Sender.submission, unread]
    rfl
  refine ⟨valid, by decide +kernel, refused, ?_⟩
  intro always
  obtain ⟨submission, taken⟩ := always "a..b@x.y" (.user valid) ⟨⟨"", ""⟩, none, false⟩
  rw [refused] at taken
  cases taken

end Tenancy
