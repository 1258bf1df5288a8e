import Tenancy.Net.Idna
import Tenancy.Net.Ip
import Tenancy.Text.Quoted

/-!
# Absolute URLs

Which texts are absolute URLs by the URL standard of the web. A URL needs a scheme. The schemes of the web need a host
that is a domain name or an IP address; other schemes may have an opaque host. Only scheme, host and port can make
a text no URL: paths, queries and fragments take any text.
-/

namespace Tenancy.Net.Url

open Text

/-- How a scheme treats its host. -/
inductive Scheme where
  | web
  | file
  | other
deriving DecidableEq, Repr

/-- The schemes of the web and the file scheme are special. -/
def Scheme.ofName (name : List Char) : Scheme :=
  let lowered := String.ofList (name.map Char.toLower)
  if lowered ∈ ["http", "https", "ws", "wss", "ftp"] then .web
  else if lowered = "file" then .file
  else .other

/-- Controls and the space, which are dropped at both ends. -/
def isEdge (c : Char) : Bool := c.toNat ≤ 0x20

/-- The text without controls and spaces at its ends and without tabs and line breaks. -/
def cleaned (cs : List Char) : List Char :=
  ((cs.dropWhile isEdge).reverse.dropWhile isEdge).reverse.filter fun c => c != '\t' && c != '\n' && c != '\r'

/-- The characters of a scheme after the first. -/
def isSchemeChar (c : Char) : Bool := c.isAlphanum || c == '+' || c == '-' || c == '.'

/-- The scheme and what follows its colon. -/
def splitScheme? (cs : List Char) : Option (Scheme × List Char) :=
  match cs with
  | c :: _ =>
    if c.isAlpha then
      match splitFirst? ':' cs with
      | some (name, rest) => if name.all isSchemeChar then some (Scheme.ofName name, rest) else none
      | none => none
    else none
  | [] => none

/-- Whether a character ends the part of a URL that names the host. -/
def endsAuthority (special : Bool) (c : Char) : Bool :=
  c == '/' || c == '?' || c == '#' || (special && c == '\\')

/-- The byte that a percent sign stands for with the two digits after it. -/
def escapedByte? (mark high low : UInt8) : Option UInt8 := do
  guard (mark.toNat = 0x25)
  let high ← Hex.value? (Char.ofNat high.toNat)
  let low ← Hex.value? (Char.ofNat low.toNat)
  return UInt8.ofNat (16 * high + low)

/-- The bytes of a text with percent escapes resolved; a percent sign without two digits stands for itself. -/
def unescaped : List UInt8 → List UInt8
  | a :: b :: c :: rest =>
    match escapedByte? a b c with
    | some byte => byte :: unescaped rest
    | none => a :: unescaped (b :: c :: rest)
  | bytes => bytes

/-- ASCII characters that no domain name may hold. -/
def isForbidden (c : Char) : Bool :=
  c.toNat ≤ 0x20 || c.toNat == 0x7F || "%#/:<>?@[\\]^|".toList.contains c

/-- The value of a number in the notations of IPv4 hosts: decimal, octal after `0`, hexadecimal after `0x`. -/
def hostNumber? (cs : List Char) : Option Nat :=
  let read (base : Nat) (digits : List Char) : Option Nat :=
    digits.foldlM (fun n c => do
      let v ← Hex.value? c
      if v < base then some (base * n + v) else none) 0
  match cs with
  | [] => none
  | '0' :: x :: rest => if x = 'x' ∨ x = 'X' then read 16 rest else read 8 (x :: rest)
  | _ => read 10 cs

/-- The labels of a domain name without an empty last one. -/
def hostParts (domain : List Char) : List (List Char) :=
  let parts := splitAll '.' domain
  if 1 < parts.length ∧ parts.getLast? = some [] then parts.dropLast else parts

/-- Whether the last label of a domain name is a number, so that the whole must be an IPv4 address. -/
def endsInNumber (domain : List Char) : Bool :=
  match (hostParts domain).getLast? with
  | none => false
  | some last => (!last.isEmpty && last.all Char.isDigit) || (hostNumber? last).isSome

/-- Whether labels are the numbers of an IPv4 address; the last one fills the bytes that are left. -/
def isHostV4 (domain : List Char) : Bool :=
  let parts := hostParts domain
  match parts.mapM hostNumber? with
  | none => false
  | some numbers =>
    numbers.length ≤ 4 && numbers.dropLast.all (· ≤ 255) &&
      (numbers.getLast?.getD 0) < Nat.pow 256 (5 - numbers.length)

/-- An IPv6 address in brackets. -/
def isBracketedV6 (host : List Char) : Bool :=
  match host with
  | '[' :: rest => rest.getLast? == some ']' && Ip.isV6 rest.dropLast
  | _ => false

/-- A domain name or an IP address. -/
def isHost (host : List Char) : Bool :=
  match host with
  | '[' :: _ => isBracketedV6 host
  | _ =>
    let bytes := (String.ofList host).toUTF8.toList
    match decodeUtf8? bytes.length (unescaped bytes) with
    | none => false
    | some name =>
      match Idna.toAscii? name with
      | none => false
      | some domain =>
        !domain.isEmpty && !domain.any isForbidden && (!endsInNumber domain || isHostV4 domain)

/-- A host of a scheme that gives it no meaning. -/
def isOpaqueHost (host : List Char) : Bool :=
  match host with
  | '[' :: _ => isBracketedV6 host
  | _ => !host.any fun c => "\x00\t\n\r #/:<>?@[\\]^|".toList.contains c

/-- A port of digits with a value below 65536; it may be empty, and a backslash ends it under every scheme. -/
def isPort (cs : List Char) : Bool :=
  let digits := cs.takeWhile (· != '\\')
  digits.all Char.isDigit && digits.foldl (fun n c => 10 * n + (c.toNat - 48)) 0 < 65536

/-- The host at the head of a text up to its colon, which does not count inside brackets, and the rest. -/
def splitHost : (inBrackets : Bool) → List Char → List Char × List Char
  | _, [] => ([], [])
  | inBrackets, c :: rest =>
    if c = ':' ∧ ¬ inBrackets then ([], c :: rest)
    else
      let (host, after) := splitHost (if c = '[' then true else if c = ']' then false else inBrackets) rest
      (c :: host, after)

/-- Whether user information leaves a trace in the URL: a user name or a password. -/
def hasUser (info : List Char) : Bool :=
  match splitFirst? ':' info with
  | some (user, password) => !user.isEmpty || !password.isEmpty
  | none => !info.isEmpty

/-- Whether what follows the slashes names a host that the scheme accepts. -/
def isAuthority (web : Bool) (cs : List Char) : Bool :=
  let authority := cs.takeWhile fun c => !endsAuthority web c
  let ends := authority.length < cs.length
  let (info, address) := (splitLast? '@' authority).getD ([], authority)
  let marked := authority.contains '@'
  let (host, rest) := splitHost false address
  let portFits :=
    match rest with
    | [] => true
    | _ :: port => isPort port
  if marked && info.isEmpty && address.isEmpty && ends then false
  else if host.isEmpty then !web && rest.isEmpty && !hasUser info
  else (if web then isHost host else isOpaqueHost host) && portFits

/-- A drive letter, which a file URL may have in place of a host. -/
def isDrive (host : List Char) : Bool :=
  match host with
  | [letter, mark] => letter.isAlpha && (mark == ':' || mark == '|')
  | _ => false

/-- Whether what follows the scheme of a file URL is acceptable. -/
def isFileRest (cs : List Char) : Bool :=
  let isSlash (c : Char) := c == '/' || c == '\\'
  match cs with
  | a :: b :: rest =>
    if isSlash a && isSlash b then
      let host := rest.takeWhile fun c => !endsAuthority true c
      host.isEmpty || isDrive host || isHost host
    else true
  | _ => true

/-- Whether a text is an absolute URL. -/
def isUrl (s : String) : Bool :=
  match splitScheme? (cleaned s.toList) with
  | none => false
  | some (.web, rest) => isAuthority true (rest.dropWhile fun c => c == '/' || c == '\\')
  | some (.file, rest) => isFileRest rest
  | some (.other, rest) =>
    match rest with
    | '/' :: '/' :: rest => isAuthority false rest
    | _ => true

end Tenancy.Net.Url
