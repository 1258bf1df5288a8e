import Tenancy.Config
import Tenancy.Context.Timeline
import Tenancy.Failure
import Tenancy.Mail.Relay

/-!
# Sending mail

A sender is set up from the configuration of outgoing mail and hands each message to the relay, for as long as the
context allows. Failures of the relay are sorted into classes by words in their text.
-/

namespace Tenancy.Mail

open Text

/-- A sender that is set up. -/
structure Sender where
  sender : Mailbox
  credentials : Option Credentials
  secure : Bool
deriving DecidableEq, Repr

namespace Sender

/-- Sets up a sender; the address that it sends from must be a mailbox. -/
def ofConfig (c : MailConfig) : Except DeliveryError Sender :=
  match Mailbox.parse c.fromAddress with
  | .error e => .error (.configuration ("Invalid from address: " ++ e.message))
  | .ok sender =>
    .ok {
      sender
      credentials :=
        match c.username, c.password with
        | some username, some password => some ⟨username, password⟩
        | _, _ => none
      secure := c.useTls }

/-- Whether a word occurs in a text. -/
def mentions (text word : String) : Bool := containsMarker word.toList text.toList

/-- Sorts a failure by the words in its text. -/
def classify (text : String) : DeliveryError :=
  if mentions text "authentication" || mentions text "AUTH" then .authentication text
  else if mentions text "connection" || mentions text "timeout" then .connection text
  else .rejected text

/-- The submission of a message to a recipient, who must have a mailbox. -/
def submission (s : Sender) (recipient : String) : Except DeliveryError Submission :=
  match Mailbox.parse recipient with
  | .error e => .error (.recipient (recipient ++ ": " ++ e.message))
  | .ok mailbox => .ok ⟨s.sender, mailbox, s.credentials, s.secure⟩

/-- Sends a message: the recipient is judged before the context, and the context bounds the dialogue, which takes some
milliseconds. Answers the lines that the relay has read, when all of them were. -/
def send (s : Sender) (relay : Relay) (timeline : Timeline) (ctx : Context) (wait : Nat) (recipient : String) :
    Except DeliveryError (List (Stage × String)) :=
  match s.submission recipient with
  | .error e => .error e
  | .ok submission =>
    match (timeline.race ctx wait).1 with
    | .refused cause => .error (.interrupted cause)
    | .stopped cause => .error (.interrupted cause)
    | .finished =>
      match relay.deliver submission with
      | (lines, .ok ()) => .ok lines
      | (_, .error e) => .error (classify e.text)

end Sender

end Tenancy.Mail
