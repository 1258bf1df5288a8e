import Tenancy.Mail.Sender
import Tenancy.Proofs.Template.Pieces
import Tenancy.Proofs.Text.Numerals

/-!
# Classes of failed mail

A sender learns of a failure as a text: a label for its kind, and behind it what the network or the relay said. It sorts the
failure by words in this text. What it is sorted by is therefore not what failed: no label holds one of the words
(`mentions_text`), so that the class depends on what was said alone (`classify_error`). Whether it is the class that fits the
mishap is said exactly (`sorted_iff`), and some that are sorted wrongly are shown.
-/

namespace Tenancy

/-! ## Words in a text -/

namespace Text

/-- A marker is found exactly when it occurs. -/
theorem containsMarker_iff {marker cs : List Char} : containsMarker marker cs = true ↔ marker <:+: cs := by
  induction cs with
  | nil => simp only [containsMarker, List.isEmpty_iff, List.infix_nil]
  | cons c cs ih =>
    have hhead : (dropMarker? marker (c :: cs)).isSome = true ↔ marker <+: c :: cs := by
      rw [Option.isSome_iff_exists]
      constructor
      · rintro ⟨rest, hrest⟩
        exact ⟨rest, (dropMarker?_eq_some.mp hrest).symm⟩
      · rintro ⟨rest, hrest⟩
        exact ⟨rest, dropMarker?_eq_some.mpr hrest.symm⟩
    rw [containsMarker, Bool.or_eq_true, hhead, ih, List.infix_cons_iff]

/-- A word without a character lies before or behind that character. -/
theorem infix_append_cons {word before after : List Char} {c : Char} (h : c ∉ word) :
    word <:+: before ++ c :: after ↔ word <:+: before ∨ word <:+: after := by
  constructor
  · rintro ⟨left, right, heq⟩
    rcases List.append_eq_append_iff.mp heq with ⟨rest, rfl, -⟩ | ⟨rest, hword, hrest⟩
    · exact .inl ⟨left, rest, rfl⟩
    · cases rest with
      | nil => exact .inl ⟨left, [], by simpa only [List.append_nil] using hword⟩
      | cons c' rest =>
        obtain ⟨rfl, rfl⟩ := List.cons.inj hrest
        rcases List.append_eq_append_iff.mp hword with ⟨rest', -, rfl⟩ | ⟨rest', -, htail⟩
        · exact absurd (List.mem_append_right _ List.mem_cons_self) h
        · cases rest' with
          | nil =>
            rw [List.nil_append] at htail
            exact absurd (htail ▸ List.mem_cons_self) h
          | cons c' rest' =>
            obtain ⟨rfl, rfl⟩ := List.cons.inj htail
            exact .inr ⟨rest', right, rfl⟩
  · rintro (hbefore | hafter)
    · exact hbefore.trans (List.prefix_append _ _).isInfix
    · exact hafter.trans ((List.suffix_cons _ _).trans (List.suffix_append _ _)).isInfix

end Text

namespace Mail

open Text

/-! ## What a failure says -/

/-- What the network or the relay said. -/
def RelayError.detail : RelayError → String
  | connection detail => detail
  | network detail => detail
  | response detail => detail
  | client detail => detail
  | transient _ text => text
  | permanent _ text => text

/-- A label with the code of a reply. -/
def numberedLabel (kind : String) (code : Nat) : String := kind ++ ("(" ++ (toString code ++ "):"))

/-- The label of a relay error. -/
def RelayError.label : RelayError → String
  | connection _ => "Connection error:"
  | network _ => "network error:"
  | response _ => "response error:"
  | client _ => "internal client error:"
  | transient code _ => numberedLabel "transient error " code
  | permanent code _ => numberedLabel "permanent error " code

/-- A relay error says its label, and what was said. -/
theorem RelayError.text_eq (e : RelayError) : e.text = e.label ++ (" " ++ e.detail) := by
  have plain {text label detail : String} (h : text = label ++ " ") : text ++ detail = label ++ (" " ++ detail) := by
    rw [h, String.append_assoc]
  have numbered {opening kind detail : String} {code : Nat} (h : opening = kind ++ "(") :
      opening ++ toString code ++ "): " ++ detail = numberedLabel kind code ++ (" " ++ detail) := by
    have hclosing : "): " = "):" ++ " " := by decide
    simp only [numberedLabel, h, hclosing, String.append_assoc]
  cases e with
  | connection detail => exact plain (by decide : "Connection error: " = "Connection error:" ++ " ")
  | network detail => exact plain (by decide : "network error: " = "network error:" ++ " ")
  | response detail => exact plain (by decide : "response error: " = "response error:" ++ " ")
  | client detail => exact plain (by decide : "internal client error: " = "internal client error:" ++ " ")
  | transient code text => exact numbered (by decide)
  | permanent code text => exact numbered (by decide)

/-- The words that failures are sorted by. -/
def sortingWords : List String := ["authentication", "AUTH", "connection", "timeout"]

/-- The words have no blank and no bracket in them, and begin with a letter. -/
theorem sortingWords_letters : ∀ word ∈ sortingWords, (' ' ∉ word.toList ∧ '(' ∉ word.toList ∧ ')' ∉ word.toList) ∧
    ∃ letter ∈ word.toList, letter.isDigit = false ∧ letter ≠ ':' := by
  intro word h
  simp only [sortingWords, List.mem_cons, List.not_mem_nil, or_false] at h
  rcases h with rfl | rfl | rfl | rfl
  · exact ⟨by decide, 'a', by decide, by decide⟩
  · exact ⟨by decide, 'A', by decide, by decide⟩
  · exact ⟨by decide, 'c', by decide, by decide⟩
  · exact ⟨by decide, 't', by decide, by decide⟩

/-- A label with a code holds no word that failures are sorted by, unless its kind does. -/
theorem not_infix_numberedLabel {word kind : String} (code : Nat) (h : word ∈ sortingWords)
    (hkind : ¬ word.toList <:+: kind.toList) : ¬ word.toList <:+: (numberedLabel kind code).toList := by
  have hlist : (numberedLabel kind code).toList = kind.toList ++ '(' :: (Nat.toDigits 10 code ++ ')' :: [':']) := by
    simp only [numberedLabel, String.toList_append, Nat.toString_eq_repr, Nat.repr_eq_ofList_toDigits, String.toList_ofList]
    rfl
  obtain ⟨⟨-, hopening, hclosing⟩, letter, hmem, hdigit, hcolon⟩ := sortingWords_letters word h
  rw [hlist, infix_append_cons hopening, infix_append_cons hclosing]
  rintro (hheld | hheld | hheld)
  · exact hkind hheld
  · rw [Nat.isDigit_of_mem_toDigits (by decide) (by decide) (hheld.subset hmem)] at hdigit
    cases hdigit
  · exact hcolon (List.mem_singleton.mp (hheld.subset hmem))

/-- No label holds a word that failures are sorted by. -/
theorem RelayError.not_infix_label (e : RelayError) {word : String} (h : word ∈ sortingWords) :
    ¬ word.toList <:+: e.label.toList := by
  have connection : ∀ word ∈ sortingWords, ¬ word.toList <:+: "Connection error:".toList := by decide
  have network : ∀ word ∈ sortingWords, ¬ word.toList <:+: "network error:".toList := by decide
  have response : ∀ word ∈ sortingWords, ¬ word.toList <:+: "response error:".toList := by decide
  have client : ∀ word ∈ sortingWords, ¬ word.toList <:+: "internal client error:".toList := by decide
  have transient : ∀ word ∈ sortingWords, ¬ word.toList <:+: "transient error ".toList := by decide
  have permanent : ∀ word ∈ sortingWords, ¬ word.toList <:+: "permanent error ".toList := by decide
  cases e with
  | connection detail => exact connection word h
  | network detail => exact network word h
  | response detail => exact response word h
  | client detail => exact client word h
  | transient code text => exact not_infix_numberedLabel code h (transient word h)
  | permanent code text => exact not_infix_numberedLabel code h (permanent word h)

/-- A failure mentions what was said. -/
theorem mentions_text (e : RelayError) {word : String} (h : word ∈ sortingWords) :
    Sender.mentions e.text word = Sender.mentions e.detail word := by
  obtain ⟨⟨hspace, -, -⟩, -⟩ := sortingWords_letters word h
  have hlist : e.text.toList = e.label.toList ++ ' ' :: e.detail.toList := by
    rw [e.text_eq, String.toList_append, String.toList_append]
    rfl
  rw [Bool.eq_iff_iff]
  unfold Sender.mentions
  rw [containsMarker_iff, containsMarker_iff, hlist, infix_append_cons hspace]
  exact or_iff_right (e.not_infix_label h)

/-! ## Mishaps -/

/-- What ends a dialogue before the message is handed over. -/
inductive Mishap where
  | unreachable (detail : String)
  /-- The connection is lost, or the relay takes too long. -/
  | lost (stage : Stage) (detail : String)
  /-- A command is answered with a code from 400 to 599. -/
  | rejected (stage : Stage) (code : Nat) (text : String)
  /-- What comes back is no reply, or has another code. -/
  | garbled (stage : Stage) (detail : String)
  /-- The relay does not offer what is needed to go on. -/
  | unsupported (complaint : String)
  /-- The connection is lost while an encrypted session is to begin. -/
  | lostEncrypting (detail : String)
  /-- No encrypted session can be agreed on. -/
  | unencrypted (detail : String)
deriving DecidableEq

/-- What an answer at a stage ends the dialogue with, if it does. -/
def Answer.mishap? (stage : Stage) : Answer → Option Mishap
  | reply code text =>
    if 200 ≤ code ∧ code < 400 then none
    else if 400 ≤ code ∧ code < 600 then some (.rejected stage code text)
    else some (.garbled stage text)
  | garbled detail => some (.garbled stage detail)
  | lost detail => some (.lost stage detail)

/-- What the handshake ends the dialogue with, if it does. -/
def Handshake.mishap? : Handshake → Option Mishap
  | agreed => none
  | refused detail => some (.unencrypted detail)
  | lost detail => some (.lostEncrypting detail)

/-- What a move ends the dialogue with, if it does. -/
def Move.mishap? (r : Relay) : Move → Option Mishap
  | say stage _ => (r.answers stage).mishap? stage
  | demand met complaint => if met then none else some (.unsupported complaint)
  | encrypt => r.handshake.mishap?

/-- What ends the dialogue with a relay first, if anything does. -/
def Relay.mishap? (r : Relay) (s : Submission) : Option Mishap :=
  match r.unreachable with
  | some detail => some (.unreachable detail)
  | none => (r.moves s).findSome? (Move.mishap? r)

namespace Mishap

/-- The error of a mishap. -/
def error : Mishap → RelayError
  | unreachable detail => .connection detail
  | lost _ detail => .network detail
  | rejected _ code text => if code < 500 then .transient code text else .permanent code text
  | garbled _ detail => .response detail
  | unsupported complaint => .client complaint
  | lostEncrypting detail => .connection detail
  | unencrypted detail => .connection detail

/-- What was said in a mishap. -/
def detail : Mishap → String
  | unreachable detail => detail
  | lost _ detail => detail
  | rejected _ _ text => text
  | garbled _ detail => detail
  | unsupported complaint => complaint
  | lostEncrypting detail => detail
  | unencrypted detail => detail

/-- What a mishap says is kept in its error. -/
theorem detail_error (m : Mishap) : m.error.detail = m.detail := by
  cases m with
  | rejected stage code text =>
    change (if code < 500 then RelayError.transient code text else RelayError.permanent code text).detail = text
    split <;> rfl
  | _ => rfl

end Mishap

/-- An answer lets the dialogue go on unless it is a mishap. -/
theorem Answer.verdict_eq (a : Answer) (stage : Stage) :
    a.verdict = match a.mishap? stage with
      | none => .ok ()
      | some m => .error m.error := by
  cases a with
  | reply code text =>
    by_cases hgood : 200 ≤ code ∧ code < 400
    · simp only [verdict, mishap?, hgood, and_self, if_true]
    · by_cases htransient : 400 ≤ code ∧ code < 500
      · have hcode : 400 ≤ code ∧ code < 600 := by omega
        simp only [verdict, mishap?, Mishap.error, if_neg hgood, if_pos htransient, if_pos hcode, if_pos htransient.2]
      · by_cases hpermanent : 500 ≤ code ∧ code < 600
        · have hcode : 400 ≤ code ∧ code < 600 := by omega
          have hlarge : ¬ code < 500 := by omega
          simp only [verdict, mishap?, Mishap.error, if_neg hgood, if_neg htransient, if_pos hpermanent, if_pos hcode,
            if_neg hlarge]
        · have hcode : ¬ (400 ≤ code ∧ code < 600) := by omega
          simp only [verdict, mishap?, Mishap.error, if_neg hgood, if_neg htransient, if_neg hpermanent, if_neg hcode]
  | garbled detail => rfl
  | lost detail => rfl

/-- A handshake lets the dialogue go on unless it is a mishap. -/
theorem Handshake.verdict_eq (h : Handshake) :
    h.verdict = match h.mishap? with
      | none => .ok ()
      | some m => .error m.error := by
  cases h <;> rfl

namespace Relay

/-- The moves are followed up to the first mishap. -/
theorem follow_eq (r : Relay) (moves : List Move) :
    (r.follow moves).2 = match moves.findSome? (Move.mishap? r) with
      | none => .ok ()
      | some m => .error m.error := by
  induction moves with
  | nil => rfl
  | cons move rest ih =>
    cases move with
    | demand met complaint =>
      cases met with
      | true => exact ih
      | false => rfl
    | encrypt =>
      have hverdict := r.handshake.verdict_eq
      cases hmishap : r.handshake.mishap? with
      | none =>
        rw [hmishap] at hverdict
        simp only [follow, hverdict, List.findSome?_cons, Move.mishap?, hmishap]
        exact ih
      | some m =>
        rw [hmishap] at hverdict
        simp only [follow, hverdict, List.findSome?_cons, Move.mishap?, hmishap]
    | say stage line =>
      have hverdict := (r.answers stage).verdict_eq stage
      cases hmishap : (r.answers stage).mishap? stage with
      | none =>
        rw [hmishap] at hverdict
        simp only [follow, hverdict, List.findSome?_cons, Move.mishap?, hmishap]
        exact ih
      | some m =>
        rw [hmishap] at hverdict
        simp only [follow, hverdict, List.findSome?_cons, Move.mishap?, hmishap]

/-- A message is handed over unless there is a mishap. -/
theorem deliver_eq (r : Relay) (s : Submission) :
    (r.deliver s).2 = match r.mishap? s with
      | none => .ok ()
      | some m => .error m.error := by
  unfold deliver mishap?
  cases r.unreachable with
  | some detail => rfl
  | none => exact r.follow_eq (r.moves s)

end Relay

/-! ## Sorting -/

namespace Mishap

/-- Whether what was said speaks of authentication. -/
def saysAuthentication (m : Mishap) : Bool := Sender.mentions m.detail "authentication" || Sender.mentions m.detail "AUTH"

/-- Whether what was said speaks of the connection. -/
def saysConnection (m : Mishap) : Bool := Sender.mentions m.detail "connection" || Sender.mentions m.detail "timeout"

/-- What a mishap is sorted as: the labels of failures play no part in it. -/
def sorted (m : Mishap) : DeliveryError :=
  if m.saysAuthentication then .authentication m.error.text
  else if m.saysConnection then .connection m.error.text
  else .rejected m.error.text

/-- The failure of a mishap is sorted as the mishap is. -/
theorem classify_error (m : Mishap) : Sender.classify m.error.text = m.sorted := by
  unfold Sender.classify sorted saysAuthentication saysConnection
  rw [mentions_text m.error (by decide : "authentication" ∈ sortingWords),
    mentions_text m.error (by decide : "AUTH" ∈ sortingWords),
    mentions_text m.error (by decide : "connection" ∈ sortingWords),
    mentions_text m.error (by decide : "timeout" ∈ sortingWords), m.detail_error]

end Mishap

/-- What is at fault when mail fails. -/
inductive Fault where
  | connection
  | authentication
  | message
  | other

namespace Mishap

/-- What is at fault in a mishap: the connection to a relay that cannot be reached or is lost, the authentication that it
rejects, or the message, when it rejects sender, recipient or content. -/
def fault : Mishap → Fault
  | unreachable _ => .connection
  | lost _ _ => .connection
  | lostEncrypting _ => .connection
  | rejected .auth _ _ => .authentication
  | rejected .sender _ _ => .message
  | rejected .recipient _ _ => .message
  | rejected .data _ _ => .message
  | rejected .content _ _ => .message
  | _ => .other

/-- Whether a class of failed mail fits a mishap. A mishap in which something else is at fault is only not to be taken for a
rejected authentication. -/
def Fits (m : Mishap) (e : DeliveryError) : Prop :=
  match m.fault with
  | .connection => e = .connection m.error.text
  | .authentication => e = .authentication m.error.text
  | .message => e = .rejected m.error.text
  | .other => ∀ text, e ≠ .authentication text

/-- Whether what was said in a mishap has it sorted into a class that fits. -/
def Tells (m : Mishap) : Prop :=
  match m.fault with
  | .connection => m.saysAuthentication = false ∧ m.saysConnection = true
  | .authentication => m.saysAuthentication = true
  | .message => m.saysAuthentication = false ∧ m.saysConnection = false
  | .other => m.saysAuthentication = false

/-- The class that a mishap is sorted into fits exactly when what was said tells. -/
theorem fits_iff (m : Mishap) : m.Fits m.sorted ↔ m.Tells := by
  unfold Fits Tells sorted
  cases m.saysAuthentication <;> cases m.saysConnection <;> cases m.fault <;> simp

end Mishap

/-- A mishap is not sorted as an interruption. -/
theorem Mishap.sorted_ne_interrupted (m : Mishap) (cause : Interruption) : m.sorted ≠ .interrupted cause := by
  unfold sorted
  split
  · exact nofun
  · split <;> exact nofun

namespace Sender

variable {s : Sender} {relay : Relay} {timeline : Timeline} {ctx : Context} {wait : Nat} {recipient : String}
  {submission : Submission}

/-- What sending to a recipient that is taken gives. -/
theorem send_eq (taken : s.submission recipient = .ok submission) :
    s.send relay timeline ctx wait recipient =
      match (timeline.race ctx wait).1 with
      | .refused cause => .error (.interrupted cause)
      | .stopped cause => .error (.interrupted cause)
      | .finished =>
        match relay.mishap? submission with
        | none => .ok (relay.deliver submission).1
        | some m => .error m.sorted := by
  have hdelivered := relay.deliver_eq submission
  unfold send
  rw [taken]
  dsimp only
  cases (timeline.race ctx wait).1 with
  | refused cause => rfl
  | stopped cause => rfl
  | finished =>
    cases hdeliver : relay.deliver submission with
    | mk lines result =>
      rw [hdeliver] at hdelivered
      cases hmishap : relay.mishap? submission with
      | none =>
        rw [hmishap] at hdelivered
        obtain rfl : result = .ok () := hdelivered
        rfl
      | some m =>
        rw [hmishap] at hdelivered
        obtain rfl : result = .error m.error := hdelivered
        exact congrArg Except.error m.classify_error

/-- Sending is interrupted exactly when the context ends it. -/
theorem send_interrupted_iff (taken : s.submission recipient = .ok submission) (cause : Interruption) :
    s.send relay timeline ctx wait recipient = .error (.interrupted cause) ↔
      (timeline.race ctx wait).1 = .refused cause ∨ (timeline.race ctx wait).1 = .stopped cause := by
  rw [send_eq taken]
  cases (timeline.race ctx wait).1 with
  | refused cause' => simp
  | stopped cause' => simp
  | finished =>
    cases relay.mishap? submission with
    | none => simp
    | some m => simp [m.sorted_ne_interrupted cause]

/-- **Failed mail is sorted by words in what the relay or the network said.** For a recipient that is taken, sending is
interrupted exactly when the context ends it. Otherwise the dialogue runs to its end or to its first mishap, and then the class
of the failure follows from the words in what was said: it is one that fits the mishap exactly when these tell it. -/
theorem sorted_iff (s : Sender) (relay : Relay) (timeline : Timeline) (ctx : Context) (wait : Nat) (recipient : String)
    (submission : Submission) (taken : s.submission recipient = .ok submission) :
    (∀ cause, s.send relay timeline ctx wait recipient = .error (.interrupted cause) ↔
      (timeline.race ctx wait).1 = .refused cause ∨ (timeline.race ctx wait).1 = .stopped cause) ∧
    ((timeline.race ctx wait).1 = .finished →
      ((∃ lines, s.send relay timeline ctx wait recipient = .ok lines) ↔ relay.mishap? submission = none) ∧
      ∀ m, relay.mishap? submission = some m →
        s.send relay timeline ctx wait recipient = .error m.sorted ∧ (m.Fits m.sorted ↔ m.Tells)) := by
  refine ⟨send_interrupted_iff taken, fun hrace => ?_⟩
  rw [send_eq taken, hrace]
  cases hmishap : relay.mishap? submission with
  | none => exact ⟨⟨fun _ => rfl, fun _ => ⟨_, rfl⟩⟩, nofun⟩
  | some m =>
    refine ⟨⟨nofun, nofun⟩, ?_⟩
    intro m' heq
    obtain rfl := Option.some.inj heq
    exact ⟨rfl, m.fits_iff⟩

/-- An account that the relay rejects in so many words is sorted as it should be. -/
theorem sorted_iff_account : ∃ (s : Sender) (relay : Relay) (submission : Submission),
    s.submission "ada@example.com" = .ok submission ∧
    relay.mishap? submission = some (.rejected .auth 535 "authentication failed") ∧
    s.send relay {} { token := ⟨[0]⟩ } 0 "ada@example.com" =
      .error (.authentication "permanent error (535): authentication failed") ∧
    (Mishap.rejected .auth 535 "authentication failed").Fits
      (.authentication "permanent error (535): authentication failed") := by
  let s : Sender := ⟨⟨"no-reply", "example.com"⟩, some ⟨"elemo", "secret"⟩, false⟩
  let submission : Submission := ⟨⟨"no-reply", "example.com"⟩, ⟨"ada", "example.com"⟩, some ⟨"elemo", "secret"⟩, false⟩
  let relay : Relay :=
    { offers := ["AUTH PLAIN"]
      answers := fun stage => if stage = .auth then .reply 535 "authentication failed" else .reply 250 "" }
  have taken : s.submission "ada@example.com" = .ok submission := by
    have read : Mailbox.parse "ada@example.com" = .ok ⟨"ada", "example.com"⟩ := by decide +kernel
    rw [Sender.submission, read]
  have hmishap : relay.mishap? submission = some (.rejected .auth 535 "authentication failed") := by decide +kernel
  have hsorted : (Mishap.rejected .auth 535 "authentication failed").sorted =
      .authentication "permanent error (535): authentication failed" := by decide +kernel
  have htells : (Mishap.rejected .auth 535 "authentication failed").saysAuthentication = true := by decide +kernel
  obtain ⟨hresult, hfits⟩ :=
    ((sorted_iff s relay {} { token := ⟨[0]⟩ } 0 "ada@example.com" submission taken).2 rfl).2 _ hmishap
  rw [hsorted] at hresult hfits
  exact ⟨s, relay, submission, taken, hmishap, hresult, hfits.mpr htells⟩

/-- A relay that cannot be reached is sorted as one that has rejected the message: the label of the failure has a capital
letter where the word by which failures are sorted has none. -/
theorem unreachable_sorted_as_rejected :
    let s : Sender := ⟨⟨"no-reply", "example.com"⟩, none, false⟩
    let relay : Relay := { unreachable := some "Network is unreachable (os error 101)", answers := fun _ => .reply 250 "" }
    s.submission "User <user@example.com>" = .ok ⟨s.sender, ⟨"user", "example.com"⟩, none, false⟩ ∧
    s.send relay {} { token := ⟨[0]⟩ } 0 "User <user@example.com>" =
      .error (.rejected "Connection error: Network is unreachable (os error 101)") ∧
    ¬ ∀ (s : Sender) (relay : Relay) (timeline : Timeline) (ctx : Context) (wait : Nat) (recipient : String)
        (submission : Submission), s.submission recipient = .ok submission →
      (timeline.race ctx wait).1 = .finished → ∀ m, relay.mishap? submission = some m →
        ∃ e, s.send relay timeline ctx wait recipient = .error e ∧ m.Fits e := by
  intro s relay
  have taken : s.submission "User <user@example.com>" = .ok ⟨s.sender, ⟨"user", "example.com"⟩, none, false⟩ := by
    have read : Mailbox.parse "User <user@example.com>" = .ok ⟨"user", "example.com"⟩ := by decide +kernel
    rw [Sender.submission, read]
  have hsorted : (Mishap.unreachable "Network is unreachable (os error 101)").sorted =
      .rejected "Connection error: Network is unreachable (os error 101)" := by decide +kernel
  have hresult : s.send relay {} { token := ⟨[0]⟩ } 0 "User <user@example.com>" =
      .error (.rejected "Connection error: Network is unreachable (os error 101)") := by
    rw [send_eq taken, ← hsorted]
    rfl
  refine ⟨taken, hresult, ?_⟩
  intro always
  obtain ⟨e, hsent, hfits⟩ := always s relay {} { token := ⟨[0]⟩ } 0 _ _ taken rfl _ rfl
  rw [hresult] at hsent
  cases hsent
  cases hfits

/-- Words of the relay have a rejected recipient taken for a failed authentication, and the other way round. -/
example : (Mishap.rejected .recipient 550 "authentication required").sorted =
      .authentication "permanent error (550): authentication required" ∧
    (Mishap.rejected .auth 535 "bad credentials").sorted = .rejected "permanent error (535): bad credentials" := by
  decide +kernel

end Sender

end Mail

end Tenancy
