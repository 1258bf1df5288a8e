import Tenancy.Mail.Mailbox

/-!
# Handing mail to a relay

A message is handed over in a dialogue of commands, each of which the relay answers with a code and a text. A code from
200 to 399 lets the dialogue go on; anything else ends it, and so do a lost connection and a service that the relay does
not offer. A dialogue may turn into an encrypted session, in which the relay is greeted again and may offer other services
than before.
-/

namespace Tenancy.Mail

open Text

/-! ## Base64 -/

/-- The character of six bits. -/
def base64Char (n : Nat) : Char :=
  if n < 26 then Char.ofNat (n + 65)
  else if n < 52 then Char.ofNat (n + 71)
  else if n < 62 then Char.ofNat (n - 4)
  else if n = 62 then '+'
  else '/'

/-- The characters of a group, from its bits and the number of characters that carry some. -/
def base64Group (bits carrying : Nat) : List Char :=
  ([bits / 262144 % 64, bits / 4096 % 64, bits / 64 % 64, bits % 64].map base64Char).take carrying ++
    List.replicate (4 - carrying) '='

/-- Bytes in base64. -/
def base64 : List UInt8 → List Char
  | [] => []
  | [a] => base64Group (a.toNat * 65536) 2
  | [a, b] => base64Group (a.toNat * 65536 + b.toNat * 256) 3
  | a :: b :: c :: rest => base64Group (a.toNat * 65536 + b.toNat * 256 + c.toNat) 4 ++ base64 rest

/-! ## Relays -/

/-- What the relay is told at a point of the dialogue. -/
inductive Stage where
  | greeting
  | hello
  | startTls
  /-- The relay is greeted again, in the encrypted session. -/
  | secureHello
  /-- The relay is given name and password; what it answers to the last line of them counts. -/
  | auth
  | sender
  | recipient
  | data
  | content
deriving DecidableEq, Repr

/-- What comes back from the relay. -/
inductive Answer where
  | reply (code : Nat) (text : String)
  | garbled (detail : String)
  | lost (detail : String)
deriving DecidableEq, Repr

/-- How the relay takes it when an encrypted session is to begin. -/
inductive Handshake where
  | agreed
  | refused (detail : String)
  | lost (detail : String)
deriving DecidableEq, Repr

/-- A relay, by whether it can be reached, what it offers, how it takes to encryption, and what it answers at each stage. -/
structure Relay where
  unreachable : Option String := none
  offers : List String := []
  handshake : Handshake := .agreed
  /-- What the relay offers in an encrypted session. -/
  secureOffers : List String := []
  answers : Stage → Answer

/-- Why a message could not be handed over. -/
inductive RelayError where
  | connection (detail : String)
  | network (detail : String)
  | response (detail : String)
  | client (detail : String)
  | transient (code : Nat) (text : String)
  | permanent (code : Nat) (text : String)
deriving DecidableEq, Repr

/-- The wording of a relay error: its class, then what the network or the relay said. -/
def RelayError.text : RelayError → String
  | connection detail => "Connection error: " ++ detail
  | network detail => "network error: " ++ detail
  | response detail => "response error: " ++ detail
  | client detail => "internal client error: " ++ detail
  | transient code text => "transient error (" ++ toString code ++ "): " ++ text
  | permanent code text => "permanent error (" ++ toString code ++ "): " ++ text

/-- What an answer means for the dialogue. -/
def Answer.verdict : Answer → Except RelayError Unit
  | reply code text =>
    if 200 ≤ code ∧ code < 400 then .ok ()
    else if 400 ≤ code ∧ code < 500 then .error (.transient code text)
    else if 500 ≤ code ∧ code < 600 then .error (.permanent code text)
    else .error (.response text)
  | garbled detail => .error (.response detail)
  | lost detail => .error (.network detail)

/-- What the handshake means for the dialogue. -/
def Handshake.verdict : Handshake → Except RelayError Unit
  | agreed => .ok ()
  | refused detail => .error (.connection detail)
  | lost detail => .error (.connection detail)

/-! ## Dialogues -/

/-- Name and password of an account on the relay. -/
structure Credentials where
  username : String
  password : String
deriving DecidableEq, Repr

/-- What is to be handed over, and how. -/
structure Submission where
  sender : Mailbox
  recipient : Mailbox
  credentials : Option Credentials
  secure : Bool
deriving DecidableEq, Repr

/-- The address of a mailbox. -/
def Mailbox.address (m : Mailbox) : String := m.user ++ "@" ++ m.domain

/-- Whether a text is all ASCII. -/
def isAscii (s : String) : Bool := s.toList.all fun c => c.toNat < 128

/-- A step of the dialogue: a line for the relay, a condition on what it offers, or the beginning of an encrypted session. -/
inductive Move where
  | say (stage : Stage) (line : String)
  | demand (met : Bool) (complaint : String)
  | encrypt
deriving DecidableEq, Repr

/-- The mechanisms of authentication among the services that a relay offers. -/
def mechanisms (offers : List String) : List String :=
  offers.flatMap fun offer =>
    match (splitAll ' ' offer.toList).map String.ofList with
    | "AUTH" :: names => names
    | _ => []

/-- The line that authenticates, for the first mechanism of two that is offered. -/
def authLine? (offers : List String) (c : Credentials) : Option String :=
  if (mechanisms offers).contains "PLAIN" then
    some ("AUTH PLAIN " ++ String.ofList (base64 ("\x00" ++ c.username ++ "\x00" ++ c.password).toUTF8.toList))
  else if (mechanisms offers).contains "LOGIN" then some "AUTH LOGIN"
  else none

/-- The moves that authenticate. -/
def authMoves (offers : List String) : Option Credentials → List Move
  | none => []
  | some c =>
    match authLine? offers c with
    | some line => [.say .auth line]
    | none => [.demand false "No compatible authentication mechanism was found"]

/-- The moves that hand the message over. -/
def envelopeMoves (offers : List String) (sender recipient : String) : List Move :=
  let wide := !(isAscii sender && isAscii recipient)
  [.demand (!wide || offers.contains "SMTPUTF8")
      "Envelope contains non-ascii chars but server does not support SMTPUTF8",
    .say .sender ("MAIL FROM:<" ++ sender ++ ">" ++ if wide then " SMTPUTF8" else ""),
    .say .recipient ("RCPT TO:<" ++ recipient ++ ">"), .say .data "DATA", .say .content ""]

namespace Relay

/-- The moves that open an encrypted session. -/
def secureMoves (r : Relay) (secure : Bool) : List Move :=
  if secure then
    [.demand (r.offers.contains "STARTTLS") "STARTTLS is not supported on this server", .say .startTls "STARTTLS", .encrypt,
      .say .secureHello "EHLO"]
  else []

/-- What the relay offers in the session in which a message is handed over. -/
def sessionOffers (r : Relay) (secure : Bool) : List String := if secure then r.secureOffers else r.offers

/-- All moves of a dialogue. -/
def moves (r : Relay) (s : Submission) : List Move :=
  let offers := r.sessionOffers s.secure
  [.say .greeting "", .say .hello "EHLO"] ++ r.secureMoves s.secure ++ authMoves offers s.credentials ++
    envelopeMoves offers s.sender.address s.recipient.address

/-- Goes through the moves up to the first failure; answers the lines said and how it ended. -/
def follow (r : Relay) : List Move → List (Stage × String) × Except RelayError Unit
  | [] => ([], .ok ())
  | .demand met complaint :: rest => if met then r.follow rest else ([], .error (.client complaint))
  | .encrypt :: rest =>
    match r.handshake.verdict with
    | .error e => ([], .error e)
    | .ok () => r.follow rest
  | .say stage line :: rest =>
    match (r.answers stage).verdict with
    | .error e => ([(stage, line)], .error e)
    | .ok () =>
      let (lines, result) := r.follow rest
      ((stage, line) :: lines, result)

/-- Hands a message over. -/
def deliver (r : Relay) (s : Submission) : List (Stage × String) × Except RelayError Unit :=
  match r.unreachable with
  | some detail => ([], .error (.connection detail))
  | none => r.follow (r.moves s)

/-- The lines of a dialogue that authenticate and address the message. -/
def envelope (lines : List (Stage × String)) : List String :=
  (lines.filter fun l => l.1 == .auth || l.1 == .sender || l.1 == .recipient).map Prod.snd

end Relay

end Tenancy.Mail
