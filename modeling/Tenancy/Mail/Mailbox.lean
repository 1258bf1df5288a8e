import Tenancy.Net.Idna
import Tenancy.Net.Ip
import Tenancy.Text.Alphanumeric
import Tenancy.Text.Chars

/-!
# Mailboxes

A mailbox is an address, alone or in angle brackets after a name, by the grammar of internet messages without comments
and domain literals. The grammar lets atoms hold any character outside ASCII and gives a local part and a domain, which
are then judged one after the other; the judgement on atoms asks for letters and numbers.
-/

namespace Tenancy.Mail

open Text Net

/-- Why a text is no mailbox. -/
inductive MailboxError where
  | input
  | user
  | domain
deriving DecidableEq, Repr

/-- The wording of a complaint. -/
def MailboxError.message : MailboxError → String
  | input => "Invalid input"
  | user => "Invalid email user"
  | domain => "Invalid email domain"

/-- An address that mail can be sent from or to. -/
structure Mailbox where
  user : String
  domain : String
deriving DecidableEq, Repr

namespace Mailbox

/-- The marks that an atom may hold. -/
def isAtomMark (c : Char) : Bool := "!#$%&'*+-/=?^_`\x7b|\x7d~".toList.contains c

/-- A character of an atom. -/
def isAtomChar (c : Char) : Bool := c.isAlphanum || isAtomMark c || 127 < c.toNat

/-- A blank between words. -/
def isFold (c : Char) : Bool := c == ' ' || c == '\t'

/-- An optional run of blanks, of which only the first is kept. -/
def fold (cs : List Char) : List Char × List Char := ((cs.takeWhile isFold).take 1, cs.dropWhile isFold)

/-- A run of atom characters at the head of a text. -/
def atom? (cs : List Char) : Option (List Char × List Char) :=
  let atom := cs.takeWhile isAtomChar
  if atom.isEmpty then none else some (atom, cs.dropWhile isAtomChar)

/-- Atoms after a first one, each behind a dot; a dot without an atom behind it is left. `fuel` bounds their number. -/
def moreAtoms : (fuel : Nat) → List Char → List Char × List Char
  | 0, cs => ([], cs)
  | fuel + 1, cs =>
    match cs with
    | '.' :: rest =>
      match atom? rest with
      | some (atom, rest) =>
        let (atoms, after) := moreAtoms fuel rest
        ('.' :: atom ++ atoms, after)
      | none => ([], cs)
    | _ => ([], cs)

/-- Atoms joined by dots; blanks in front of them are dropped. -/
def dotAtom? (cs : List Char) : Option (List Char × List Char) :=
  (atom? (cs.dropWhile isFold)).map fun (atom, rest) =>
    let (atoms, after) := moreAtoms rest.length rest
    (atom ++ atoms, after)

/-- A character that stands for itself between quotes. -/
def isQuotedChar (c : Char) : Bool :=
  let n := c.toNat
  n == 33 || (35 ≤ n && n ≤ 91) || (93 ≤ n && n ≤ 126) || (1 ≤ n && n ≤ 8) || n == 11 || n == 12 ||
    (14 ≤ n && n ≤ 31) || 127 ≤ n

/-- A character that may stand after a backslash. -/
def isPairedChar (c : Char) : Bool :=
  let n := c.toNat
  (1 ≤ n && n ≤ 9) || n == 11 || n == 12 || (14 ≤ n && n ≤ 127)

/-- The text between quotes; `fuel` bounds its length. -/
def quotedBody : (fuel : Nat) → List Char → List Char × List Char
  | 0, cs => ([], cs)
  | fuel + 1, cs =>
    let (blank, rest) := fold cs
    match rest with
    | '\\' :: c :: rest =>
      if isPairedChar c then
        let (body, after) := quotedBody fuel rest
        (blank ++ c :: body, after)
      else ([], cs)
    | c :: rest =>
      if isQuotedChar c then
        let (body, after) := quotedBody fuel rest
        (blank ++ c :: body, after)
      else ([], cs)
    | [] => ([], cs)

/-- A quoted text, without its quotes and without any blanks before the second one. -/
def quoted? (cs : List Char) : Option (List Char × List Char) :=
  match cs with
  | '"' :: rest =>
    let (body, rest) := quotedBody rest.length rest
    match trimStart rest with
    | '"' :: rest => some (body, rest)
    | _ => none
  | _ => none

/-- The part of an address before the `@`. -/
def local? (cs : List Char) : Option (List Char × List Char) := dotAtom? cs <|> quoted? cs

/-- Local part and domain. -/
def address? (cs : List Char) : Option ((List Char × List Char) × List Char) :=
  match local? cs with
  | some (user, '@' :: rest) => (dotAtom? rest).map fun (domain, rest) => ((user, domain), rest)
  | _ => none

/-- The text after a word: a quoted text or an atom. -/
def afterWord? (cs : List Char) : Option (List Char) := (quoted? cs <|> atom? cs).map Prod.snd

/-- The text after the rest of a name: words, dots and blanks; `fuel` bounds their number. -/
def afterName : (fuel : Nat) → List Char → List Char
  | 0, cs => cs
  | fuel + 1, cs =>
    match afterWord? cs with
    | some rest => afterName fuel rest
    | none =>
      match cs with
      | c :: rest => if c = '.' || isFold c then afterName fuel rest else cs
      | [] => []

/-- An address in angle brackets, after a name or alone. A name begins with a word. -/
def named? (cs : List Char) : Option ((List Char × List Char) × List Char) :=
  match ((afterWord? cs).map fun rest => afterName rest.length rest).getD cs with
  | '<' :: rest =>
    match address? rest with
    | some (address, '>' :: rest) => some (address, rest)
    | _ => none
  | _ => none

/-- Local part and domain of a whole text, without the blanks around it. -/
def split? (cs : List Char) : Option (List Char × List Char) :=
  let cs := trim cs
  match named? cs <|> address? cs with
  | some (address, []) => some address
  | _ => none

/-- A character beyond ASCII that is admitted whatever it stands for: its code point fills two bytes, the first from C2 to
DF and the second from 80 to BF. -/
def isTwoByteMark (c : Char) : Bool :=
  let high := c.toNat / 256
  let low := c.toNat % 256
  0xC2 ≤ high && high ≤ 0xDF && 0x80 ≤ low && low ≤ 0xBF

/-- A nonempty run of letters, numbers and marks. -/
def isAtom (cs : List Char) : Bool :=
  !cs.isEmpty && cs.all fun c => isAlphanumeric c || isAtomMark c || isTwoByteMark c

/-- Whether a text may stand between the quotes of a local part that has kept them. -/
def isQuotedContent : List Char → Bool
  | [] => true
  | '\\' :: c :: rest => 33 ≤ c.toNat && c.toNat ≤ 126 && isQuotedContent rest
  | c :: rest =>
    c != '\\' && c != '"' && (isFold c || 33 ≤ c.toNat && c.toNat ≤ 126 || isTwoByteMark c) && isQuotedContent rest

/-- Whether mail can be addressed to the local part: atoms joined by dots or a text in quotes, of at most 64 bytes. -/
def isUser (cs : List Char) : Bool :=
  byteLength cs ≤ 64 &&
    match cs with
    | '"' :: rest =>
      if rest.getLast? = some '"' then 1 < rest.length && isQuotedContent rest.dropLast else false
    | _ => (splitAll '.' cs).all isAtom

/-- Atoms joined by dots, each of at most 63 bytes with a letter or number at both ends. -/
def isName (cs : List Char) : Bool :=
  (splitAll '.' cs).all fun label =>
    isAtom label && byteLength label ≤ 63 && (label.head?.map isAlphanumeric).getD false &&
      (label.getLast?.map isAlphanumeric).getD false

/-- A character of a domain literal. -/
def isLiteralChar (c : Char) : Bool :=
  let n := c.toNat
  (33 ≤ n && n ≤ 90) || (94 ≤ n && n ≤ 126) || isTwoByteMark c

/-- The text between an opening and a closing bracket that enclose all of it. -/
def inBrackets? : List Char → Option (List Char)
  | '[' :: cs => if cs.getLast? = some ']' then some cs.dropLast else none
  | _ => none

/-- A host name or a literal in brackets, of at most 254 bytes, or an IP address with or without brackets. -/
def isHost (cs : List Char) : Bool :=
  let bracketed := inBrackets? cs
  (!cs.isEmpty && byteLength cs ≤ 254 && ((bracketed.map fun cs => cs.all isLiteralChar).getD (isName cs))) ||
    Ip.isAddress (bracketed.getD cs)

/-- Whether mail can be sent to the domain, as it is or in its ASCII form. -/
def isDomain (cs : List Char) : Bool :=
  isHost cs ||
    match Idna.toAscii? cs with
    | some ascii => isHost ascii
    | none => false

/-- Reads a mailbox, or says why the text is none. -/
def parse (s : String) : Except MailboxError Mailbox :=
  match split? s.toList with
  | none => .error .input
  | some (user, domain) =>
    if ¬ isUser user then .error .user
    else if ¬ isDomain domain then .error .domain
    else .ok ⟨String.ofList user, String.ofList domain⟩

end Mailbox

end Tenancy.Mail
