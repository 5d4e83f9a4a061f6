/-
# Backchannel.Json.Reader -- reading values from text

A reader takes the text that is left and answers what it read and what is left
then, or a `Fault`.  The leaves (`readText`, `readNumber`, `readWord`) come first,
`readValue` after them.  At most `nestingLimit` containers may stand inside one
another.

A number with a fraction or an exponent, or too large for a 64-bit word, is
computed as its first digits that fit an unsigned word times or divided by a
power of ten, both rounded to binary64: the result may differ from the number
nearest to the text in its last bit.
-/
import Backchannel.Json.Fault

namespace Backchannel.Json

set_option autoImplicit false

open Backchannel.Numeric (Binary64)
open Backchannel.Text.Utf8 (byteCount)

/-- What a reader answers: a result and the text left, or a fault. -/
abbrev Reading (α : Type) := Except Fault (α × List Char)

/-- How many containers may stand inside one another. -/
def nestingLimit : Nat := 127

def malformed {α : Type} (how : Malformed) (spot : Spot) : Except Fault α :=
  .error ⟨.malformed how, spot⟩

def mismatched {α : Type} (how : Mismatch) (spot : Spot) : Except Fault α :=
  .error ⟨.mismatch how, spot⟩

def isJsonBlank (c : Char) : Bool := c = ' ' || c = '\n' || c = '\t' || c = '\r'

def skipBlank (s : List Char) : List Char := s.dropWhile isJsonBlank

def isDigit (c : Char) : Bool := '0' ≤ c && c ≤ '9'

def digitValue (c : Char) : Nat := c.toNat - '0'.toNat

/-! ## Words -/

/-- Reads the rest of one of the words `null`, `true`, `false`. -/
def readWord : List Char → List Char → Except Fault (List Char)
  | [], s => .ok s
  | _ :: _, [] => malformed .endInValue (.before [])
  | w :: ws, c :: s =>
    if c = w then readWord ws s else malformed .wordExpected (.behind (c :: s))

/-! ## Texts -/

def hexValue? (c : Char) : Option Nat :=
  if '0' ≤ c && c ≤ '9' then some (c.toNat - '0'.toNat)
  else if 'a' ≤ c && c ≤ 'f' then some (c.toNat - 'a'.toNat + 10)
  else if 'A' ≤ c && c ≤ 'F' then some (c.toNat - 'A'.toNat + 10)
  else none

/-- The number that four hexadecimal digits write. -/
def hexUnit? (a b c d : Char) : Option Nat := do
  let a ← hexValue? a
  let b ← hexValue? b
  let c ← hexValue? c
  let d ← hexValue? d
  return ((a * 16 + b) * 16 + c) * 16 + d

/-- The fault of an escape whose four digits are not there: the text ends before
four bytes, or they are no digits. -/
def hexFault {α : Type} (digits : List Char) : Except Fault α :=
  if byteCount digits < 4 then malformed .endInText (.before [])
  else malformed .escapeInvalid ⟨digits, 4⟩

def isLeading (u : Nat) : Bool := 0xD800 ≤ u && u ≤ 0xDBFF

def isTrailing (u : Nat) : Bool := 0xDC00 ≤ u && u ≤ 0xDFFF

/-- The character of a pair of surrogates. -/
def pairChar (u v : Nat) : Char :=
  Char.ofNat (0x10000 + (u - 0xD800) * 0x400 + (v - 0xDC00))

def simpleEscape? (c : Char) : Option Char :=
  if c = '"' then some '"'
  else if c = '\\' then some '\\'
  else if c = '/' then some '/'
  else if c = 'b' then some '\x08'
  else if c = 'f' then some '\x0c'
  else if c = 'n' then some '\n'
  else if c = 'r' then some '\r'
  else if c = 't' then some '\t'
  else none

/-- Reads the four digits of an escape. -/
def readUnit : List Char → Reading Nat
  | a :: b :: c :: d :: s =>
    match hexUnit? a b c d with
    | some u => .ok (u, s)
    | none => hexFault (a :: b :: c :: d :: s)
  | s => hexFault s

/-- Reads the rest of a `\u` escape: one unit, or two that form a pair. -/
def readUnicode (s : List Char) : Except Fault (Char × List Char) := do
  let (u, s) ← readUnit s
  if isTrailing u then malformed .surrogateAlone (.before s)
  else if isLeading u then
    match s with
    | [] => malformed .endInText (.before [])
    | '\\' :: [] => malformed .endInText (.before [])
    | '\\' :: 'u' :: s =>
      let (v, s) ← readUnit s
      if isTrailing v then .ok (pairChar u v, s)
      else malformed .surrogateAlone (.before s)
    | '\\' :: s => malformed .escapeUnfinished (.behind s)
    | s => malformed .escapeUnfinished (.behind s)
  else .ok (Char.ofNat u, s)

/-- Reads what follows a backslash. -/
def readEscape : List Char → Reading Char
  | [] => malformed .endInText (.before [])
  | 'u' :: s => readUnicode s
  | c :: s =>
    match simpleEscape? c with
    | some d => .ok (d, s)
    | none => malformed .escapeInvalid (.behind (c :: s))

/-- Reads characters up to the closing quote; `done` holds those read, last
first, and `fuel` bounds how many follow. -/
def readChars : Nat → List Char → List Char → Except Fault (String × List Char)
  | 0, _, _ => malformed .endInText (.before [])
  | _ + 1, [], _ => malformed .endInText (.before [])
  | fuel + 1, c :: s, done =>
    if c = '"' then .ok (String.ofList done.reverse, s)
    else if c = '\\' then do
      let (d, s) ← readEscape s
      readChars fuel s (d :: done)
    else if c.toNat < 0x20 then malformed .controlCharacter (.behind (c :: s))
    else readChars fuel s (c :: done)

/-- Reads a text whose opening quote has been read. -/
def readText (s : List Char) : Reading String := readChars (s.length + 1) s []

/-! ## Numbers -/

/-- The largest number of an unsigned 64-bit word. -/
def wordMax : Nat := Numeric.wordValues 64 - 1

/-- Takes digits into a number as long as it fits a word: the number and the
digits that no longer fit. -/
def absorb : Nat → List Char → Nat × List Char
  | n, [] => (n, [])
  | n, c :: cs =>
    let m := n * 10 + digitValue c
    if wordMax < m then (n, c :: cs) else absorb m cs

/-- Divides by 10^308 until the exponent is above -308 or nothing is left;
`fuel` bounds how often. -/
def scaleDown : Nat → Binary64 → Nat → Binary64 × Nat
  | 0, x, k => (x, k)
  | fuel + 1, x, k =>
    if k ≤ 308 || x.isZero then (x, k)
    else
      match Binary64.powerOfTen 308 with
      | none => (x, k)
      | some p => scaleDown fuel ((x.div p).getD Binary64.zero) (k - 308)

/-- A word times a power of ten, `none` beyond the finite numbers. -/
def scale (significand : Nat) (exponent : Int) : Option Binary64 :=
  let x := Binary64.ofNat significand
  if 0 ≤ exponent then
    match Binary64.powerOfTen exponent.toNat with
    | some p => x.mul p
    | none => if x.isZero then some x else none
  else
    let (x, k) := scaleDown 4 x exponent.natAbs
    if x.isZero then some x
    else
      match Binary64.powerOfTen k with
      | some p => x.div p
      | none => some x

/-- The largest exponent that is read. -/
def exponentMax : Nat := Numeric.wordValues 31 - 1

/-- Takes exponent digits as long as the number stays below `exponentMax`; at
the first one beyond, `none` and the digits behind it. -/
def absorbExponent : Nat → List Char → Option Nat × List Char
  | n, [] => (some n, [])
  | n, c :: cs =>
    let m := n * 10 + digitValue c
    if exponentMax < m then (none, cs) else absorbExponent m cs

/-- The number with its sign, at the end of its text. -/
def finishReal (negative : Bool) (significand : Nat) (exponent : Int) (s : List Char) :
    Reading Number :=
  match scale significand exponent with
  | none => malformed .numberOutOfRange (.before s)
  | some x => .ok (.real (if negative then x.neg else x), s)

/-- Reads the exponent behind its `e`. -/
def readExponent (negative : Bool) (significand : Nat) (base : Int) (s : List Char) :
    Reading Number :=
  let (below, s) :=
    match s with
    | '+' :: s => (false, s)
    | '-' :: s => (true, s)
    | s => (false, s)
  match s with
  | [] => malformed .endInValue (.before [])
  | c :: _ =>
    if !isDigit c then malformed .numberInvalid (.behind s)
    else
      let digits := s.takeWhile isDigit
      let rest := s.dropWhile isDigit
      match absorbExponent 0 digits with
      | (some e, _) =>
        finishReal negative significand (if below then base - e else base + e) rest
      | (none, unread) =>
        if significand ≠ 0 ∧ !below then
          malformed .numberOutOfRange (.before (unread ++ rest))
        else
          .ok (.real (if negative then Binary64.zero.neg else Binary64.zero), rest)

def isExponentMark (c : Char) : Bool := c = 'e' || c = 'E'

/-- Reads the fraction behind its point. -/
def readFraction (negative : Bool) (significand : Nat) (base : Int) (s : List Char) :
    Reading Number :=
  let digits := s.takeWhile isDigit
  let rest := s.dropWhile isDigit
  if digits.isEmpty then
    match rest with
    | [] => malformed .endInValue (.before [])
    | rest => malformed .numberInvalid (.behind rest)
  else
    let (m, dropped) := absorb significand digits
    let e := base - (digits.length - dropped.length : Nat)
    match rest with
    | c :: after =>
      if isExponentMark c then readExponent negative m e after
      else finishReal negative m e rest
    | [] => finishReal negative m e rest

/-- A whole number read with its sign.  A negative zero and what no 64-bit word
holds are not whole. -/
def wholeNumber (negative : Bool) (n : Nat) : Number :=
  if negative then
    if n = 0 then .real Binary64.zero.neg else .ofInt (-n)
  else .ofInt n

/-- Reads a number whose sign has been read. -/
def readNumber (negative : Bool) (s : List Char) : Reading Number :=
  match s with
  | [] => malformed .endInValue (.before [])
  | first :: afterFirst =>
    if !isDigit first then malformed .numberInvalid (.behind s)
    else if first = '0' ∧ (afterFirst.head?.any isDigit) then
      malformed .numberInvalid (.behind afterFirst)
    else
      let digits := s.takeWhile isDigit
      let rest := s.dropWhile isDigit
      let (n, dropped) := absorb 0 digits
      let base : Int := dropped.length
      match rest with
      | '.' :: after => readFraction negative n base after
      | c :: after =>
        if isExponentMark c then readExponent negative n base after
        else if dropped.isEmpty then .ok (wholeNumber negative n, rest)
        else finishReal negative n base rest
      | [] =>
        if dropped.isEmpty then .ok (wholeNumber negative n, rest)
        else finishReal negative n base rest

/-! ## Values -/

/-- Reads the colon between a key and its value. -/
def readColon (s : List Char) : Except Fault (List Char) :=
  match skipBlank s with
  | [] => malformed .endInObject (.before [])
  | ':' :: s => .ok s
  | s => malformed .colonExpected (.behind s)

/-- Whether another item follows in a list: the text before it, or none and the
text from the closing bracket on. -/
def nextItem (first : Bool) (s : List Char) : Except Fault (Bool × List Char) :=
  match skipBlank s with
  | [] => malformed .endInList (.before [])
  | ']' :: s => .ok (false, ']' :: s)
  | c :: s =>
    if first then .ok (true, c :: s)
    else if c = ',' then
      match skipBlank s with
      | [] => malformed .endInValue (.before [])
      | ']' :: s => malformed .trailingComma (.behind (']' :: s))
      | s => .ok (true, s)
    else malformed .listCommaExpected (.behind (c :: s))

/-- Whether another member follows in an object: the text behind the opening
quote of its key, or none and the text from the closing brace on. -/
def nextKey (first : Bool) (s : List Char) : Except Fault (Bool × List Char) :=
  match skipBlank s with
  | [] => malformed .endInObject (.before [])
  | '}' :: s => .ok (false, '}' :: s)
  | c :: s =>
    if first then
      if c = '"' then .ok (true, s) else malformed .keyNotText (.behind (c :: s))
    else if c = ',' then
      match skipBlank s with
      | [] => malformed .endInValue (.before [])
      | '"' :: s => .ok (true, s)
      | '}' :: s => malformed .trailingComma (.behind ('}' :: s))
      | s => malformed .keyNotText (.behind s)
    else malformed .objectCommaExpected (.behind (c :: s))

/-- Reads a scalar by its first character, if it starts one. -/
def readScalar? (c : Char) (s : List Char) : Option (Reading Value) :=
  if c = 'n' then some ((readWord ['u', 'l', 'l'] s).map (Value.null, ·))
  else if c = 't' then some ((readWord ['r', 'u', 'e'] s).map (Value.bool true, ·))
  else if c = 'f' then some ((readWord ['a', 'l', 's', 'e'] s).map (Value.bool false, ·))
  else if c = '-' then some ((readNumber true s).map fun r => (Value.number r.1, r.2))
  else if isDigit c then some ((readNumber false (c :: s)).map fun r => (Value.number r.1, r.2))
  else if c = '"' then some ((readText s).map fun r => (Value.text r.1, r.2))
  else none

mutual

/-- Reads a value.  `room` is the number of containers that may still be opened,
`fuel` bounds the recursion. -/
def readValueIn : Nat → Nat → List Char → Except Fault (Value × List Char)
  | 0, _, _ => malformed .endInValue (.before [])
  | fuel + 1, room, s =>
    match skipBlank s with
    | [] => malformed .endInValue (.before [])
    | c :: s =>
      match readScalar? c s with
      | some reading => reading
      | none =>
        if c = '[' then
          match room with
          | 0 => malformed .tooDeep (.behind (c :: s))
          | room + 1 => do
            let (items, s) ← readItems fuel room true s
            return (.list items, s)
        else if c = '{' then
          match room with
          | 0 => malformed .tooDeep (.behind (c :: s))
          | room + 1 => do
            let (members, s) ← readMembers fuel room true [] s
            return (.object members, s)
        else malformed .valueExpected (.behind (c :: s))

/-- Reads the items of a list up to its closing bracket. -/
def readItems : Nat → Nat → Bool → List Char → Except Fault (List Value × List Char)
  | 0, _, _, _ => malformed .endInList (.before [])
  | fuel + 1, room, first, s => do
    let (more, s) ← nextItem first s
    if more then
      let (v, s) ← readValueIn fuel room s
      let (vs, s) ← readItems fuel room false s
      return (v :: vs, s)
    else return ([], s.drop 1)

/-- Reads the members of an object up to its closing brace, into those read
before: a later member replaces an earlier one of its key. -/
def readMembers : Nat → Nat → Bool → Members → List Char →
    Except Fault (Members × List Char)
  | 0, _, _, _, _ => malformed .endInObject (.before [])
  | fuel + 1, room, first, members, s => do
    let (more, s) ← nextKey first s
    if more then
      let (key, s) ← readText s
      let s ← readColon s
      let (v, s) ← readValueIn fuel room s
      readMembers fuel room false (members.insert key v) s
    else return (members, s.drop 1)

end

/-- Reads a value, with room for `room` more containers. -/
def readValue (room : Nat) (s : List Char) : Reading Value :=
  readValueIn (2 * s.length + 2) room s

/-- Nothing but blanks may follow. -/
def expectEnd (s : List Char) : Except Fault Unit :=
  match skipBlank s with
  | [] => .ok ()
  | s => malformed .trailingCharacters (.behind s)

/-- Reads a whole text with a reader. -/
def readWhole {α : Type} (reader : List Char → Reading α) (s : List Char) : Except Fault α := do
  let (a, s) ← reader s
  expectEnd s
  return a

/-- The value that a text writes. -/
def parse (s : String) : Except TextError Value :=
  (readWhole (readValue nestingLimit) s.toList).mapError (Fault.inText s.toList)

end Backchannel.Json
