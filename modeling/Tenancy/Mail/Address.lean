import Tenancy.Net.Idna
import Tenancy.Net.Ip

/-!
# Email addresses that records may hold

The address rule of web forms: a local part of letters, digits and marks, and a domain of labels joined by dots or an IP
address in brackets. A domain that fails is judged once more in its ASCII form.
-/

namespace Tenancy.Mail.Address

open Text Net

/-- The marks that a local part may hold beside letters and digits. -/
def localMarks : List Char := ".!#$%&'*+/=?^_`\x7b|\x7d~-".toList

/-- Whether the text before the `@` is a local part. -/
def isLocal (cs : List Char) : Bool :=
  !cs.isEmpty && cs.all fun c => c.isAlphanum || localMarks.contains c

/-- A label of at most 63 letters, digits and inner hyphens. -/
def isLabel (cs : List Char) : Bool :=
  match cs with
  | [] => false
  | first :: _ =>
    cs.length ≤ 63 && first.isAlphanum && (cs.getLast?.getD first).isAlphanum &&
      cs.all fun c => c.isAlphanum || c == '-'

/-- Labels joined by dots. -/
def isDomain (cs : List Char) : Bool := (splitAll '.' cs).all isLabel

/-- A text that ends in an IP address in brackets. -/
def endsInLiteral (cs : List Char) : Bool :=
  match splitLast? '[' cs with
  | some (_, rest) => rest.getLast? == some ']' && Ip.isAddress rest.dropLast
  | none => false

/-- A host that mail can go to. -/
def isHost (cs : List Char) : Bool := isDomain cs || endsInLiteral cs

/-- Whether a text is an address that a record may hold. -/
def isAddress (s : String) : Bool :=
  match splitLast? '@' s.toList with
  | none => false
  | some (user, host) =>
    user.length ≤ 64 && host.length ≤ 255 && isLocal user &&
      (isHost host ||
        match Idna.toAscii? host with
        | some ascii => isHost ascii
        | none => false)

end Tenancy.Mail.Address
