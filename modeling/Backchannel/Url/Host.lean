/-
# Backchannel.Url.Host -- reading hosts

In the common schemes a host is an IPv6 address in brackets, or a name.  Names are
percent-decoded and turned into ASCII; one whose last label is a number is an IPv4
address.  In other schemes a name is taken as it is.
-/
import Backchannel.Url.Basic
import Backchannel.Url.Domain

namespace Backchannel.Url

set_option autoImplicit false

open Backchannel.Text.Utf8 (Bytes)

/-! ## IPv4 -/

def hexValue? (c : Char) : Option Nat := Text.Hex.digitValue? (UInt8.ofNat c.toNat)

/-- The value of a digit of that base. -/
def digitIn? (base : Nat) (c : Char) : Option Nat :=
  if c.toNat < 0x80 then (hexValue? c).filter (· < base) else none

def numberIn? (base : Nat) (cs : List Char) : Option Nat :=
  cs.foldlM (fun n c => (digitIn? base c).map fun d => base * n + d) 0

/-- The number of a part of an IPv4 address: decimal, octal behind a zero, or
hexadecimal behind `0x`. -/
def partNumber? (cs : List Char) : Option Nat :=
  match cs with
  | [] => none
  | '0' :: 'x' :: rest | '0' :: 'X' :: rest => numberIn? 16 rest
  | '0' :: c :: rest => numberIn? 8 (c :: rest)
  | _ => numberIn? 10 cs

def partsOf (cs : List Char) : List (List Char) := cs.splitOn '.'

/-- The parts, without an empty last one. -/
def addressParts (cs : List Char) : List (List Char) :=
  let parts := partsOf cs
  if parts.getLast? = some [] then parts.dropLast else parts

/-- The last label is a number, so the name must be an IPv4 address. -/
def endsInNumber (cs : List Char) : Bool :=
  match (addressParts cs).getLast? with
  | none | some [] => false
  | some last => last.all Char.isDigit || (partNumber? last).isSome

/-- An IPv4 address of up to four parts; the last fills the bytes that are left. -/
def readFour (cs : List Char) : Except Fault Nat :=
  let parts := addressParts cs
  match parts.mapM partNumber? with
  | none => .error .badFour
  | some numbers =>
    match numbers.reverse with
    | [] => .error .badFour
    | last :: front =>
      let count := front.length
      if 4 < numbers.length || Nat.pow 256 (4 - count) ≤ last || front.any (255 < ·) then
        .error .badFour
      else
        .ok (front.foldr (fun part n => 256 * n + part) 0 * Nat.pow 256 (4 - count) + last)

/-! ## IPv6 -/

/-- A byte in decimal without leading zeros. -/
def plainByte? (cs : List Char) : Option Nat :=
  match cs with
  | [] => none
  | '0' :: _ :: _ => none
  | _ =>
    match numberIn? 10 cs with
    | some n => if n < 256 then some n else none
    | none => none

/-- The pieces of an IPv4 address in four decimal bytes. -/
def piecesOfFour? (cs : List Char) : Option (List Nat) :=
  match (partsOf cs).mapM plainByte? with
  | some [a, b, c, d] => some [256 * a + b, 256 * c + d]
  | _ => none

/-- The pieces of groups between colons.  Only the last group, and only where the whole
address ends, may be an IPv4 address. -/
def piecesOf? (atEnd : Bool) : List (List Char) → Option (List Nat)
  | [] => some []
  | [group] =>
    if atEnd && group.contains '.' then piecesOfFour? group else (piece? group).map ([·])
  | group :: rest =>
    match piece? group, piecesOf? atEnd rest with
    | some p, some ps => some (p :: ps)
    | _, _ => none
where
  piece? (group : List Char) : Option Nat :=
    if group.isEmpty || 4 < group.length then none else numberIn? 16 group

def sidePieces? (atEnd : Bool) (cs : List Char) : Option (List Nat) :=
  if cs.isEmpty then some [] else piecesOf? atEnd (cs.splitOn ':')

/-- Splits at the first two colons in a row. -/
def splitAtGap : List Char → Option (List Char × List Char)
  | ':' :: ':' :: rest => some ([], rest)
  | c :: rest => (splitAtGap rest).map fun (left, right) => (c :: left, right)
  | [] => none

def readSix (cs : List Char) : Except Fault (List Nat) :=
  match splitAtGap cs with
  | none =>
    match sidePieces? true cs with
    | some ps => if ps.length = 8 then .ok ps else .error .badSix
    | none => .error .badSix
  | some (left, right) =>
    match sidePieces? false left, sidePieces? true right with
    | some ls, some rs =>
      if ls.length + rs.length ≤ 7 then
        .ok (ls ++ List.replicate (8 - ls.length - rs.length) 0 ++ rs)
      else .error .badSix
    | _, _ => .error .badSix

/-- An IPv6 address in brackets. -/
def readBracketed (cs : List Char) : Except Fault Host :=
  match cs.getLast? with
  | some ']' => (readSix (cs.drop 1).dropLast).map .six
  | _ => .error .badSix

/-! ## Names -/

/-- The host of a common scheme. -/
def readHost (cs : List Char) : Except Fault Host :=
  if cs.head? = some '[' then readBracketed cs
  else
    match Text.Utf8.decode (percentDecode (Text.Utf8.encode cs)) with
    | .error _ => .error .badDomain
    | .ok decoded =>
      match Domain.toAscii? decoded with
      | none => .error .badDomain
      | some [] => .error .emptyHost
      | some name =>
        if endsInNumber name then (readFour name).map .four
        else .ok (.name (String.ofList name))

def badHostCharacters : List Char :=
  ['\x00', '\t', '\n', '\r', ' ', '#', '/', ':', '<', '>', '?', '@', '[', '\\', ']', '^', '|']

/-- The host of another scheme. -/
def readPlainHost (cs : List Char) : Except Fault Host :=
  if cs.head? = some '[' then readBracketed cs
  else if cs.any badHostCharacters.contains then .error .badHostCharacter
  else .ok (.name (percentEncode [] cs))

end Backchannel.Url
