import Tenancy.Text.Chars
import Tenancy.Text.Hex

/-!
# IP addresses

The texts of IP addresses: four decimal numbers below 256 without leading zeros, or eight groups of hexadecimal digits,
of which one run of zero groups may be left out and the last two may be written as an IPv4 address.
-/

namespace Tenancy.Net.Ip

open Text

/-- A decimal number below 256 without leading zeros. -/
def isOctet (cs : List Char) : Bool :=
  !cs.isEmpty && cs.length ≤ 3 && cs.all Char.isDigit && (cs.length == 1 || cs.head? != some '0') &&
    cs.foldl (fun n c => 10 * n + (c.toNat - 48)) 0 < 256

/-- An IPv4 address. -/
def isV4 (cs : List Char) : Bool :=
  let parts := splitAll '.' cs
  parts.length == 4 && parts.all isOctet

/-- One to four hexadecimal digits. -/
def isGroup (cs : List Char) : Bool :=
  !cs.isEmpty && cs.length ≤ 4 && cs.all Hex.isDigit

/-- The number of groups that pieces between colons make, the last of which may be an IPv4 address. -/
def groupCount? : List (List Char) → Option Nat
  | [] => some 0
  | [piece] => if isGroup piece then some 1 else if isV4 piece then some 2 else none
  | piece :: pieces => if isGroup piece then (groupCount? pieces).map (· + 1) else none

/-- The text before and after the first `::`. -/
def splitGap? : List Char → Option (List Char × List Char)
  | ':' :: ':' :: rest => some ([], rest)
  | c :: rest => (splitGap? rest).map fun (before, after) => (c :: before, after)
  | [] => none

/-- The pieces between colons; an empty text has none. -/
def pieces (cs : List Char) : List (List Char) := if cs.isEmpty then [] else splitAll ':' cs

/-- An IPv6 address; the gap stands for at least one group. -/
def isV6 (cs : List Char) : Bool :=
  match splitGap? cs with
  | none => groupCount? (pieces cs) == some 8
  | some (before, after) =>
    match (pieces before).all isGroup, groupCount? (pieces after) with
    | true, some n => (pieces before).length + n ≤ 7
    | _, _ => false

/-- An address of either version. -/
def isAddress (cs : List Char) : Bool := isV4 cs || isV6 cs

end Tenancy.Net.Ip
