/-
# Backchannel.LogFilter.PatternText -- reading patterns

A pattern is read from its text in one pass, with a stack of the groups that are
open (`Draft`).  Classes of characters are read by descent.  Where the switch `x` is
on, blanks and comments between the signs of a pattern are passed over.

The text of a field ends at a closing brace, so no pattern holds one: what would
need it, such as a count of repetitions, is never complete.
-/
import Backchannel.LogFilter.Pattern
import Backchannel.Text.Alphanumeric

namespace Backchannel.LogFilter

set_option autoImplicit false

/-! ## What is passed over -/

/-- The text behind blanks and comments.  A comment reaches from a number sign to the
end of its line. -/
def behindRemarks (inComment : Bool) : List Char → List Char
  | [] => []
  | c :: rest =>
    if inComment then behindRemarks (c ≠ '\n') rest
    else if Text.isBlank c then behindRemarks false rest
    else if c = '#' then behindRemarks true rest
    else c :: rest

def pass (spaced : Bool) (cs : List Char) : List Char :=
  if spaced then behindRemarks false cs else cs

/-- A look ahead, past blanks and the mark of a comment. -/
def ahead? (spaced : Bool) (cs : List Char) : Option Char :=
  if spaced then
    let next :=
      match cs.dropWhile Text.isBlank with
      | '#' :: rest => rest.dropWhile Text.isBlank
      | rest => rest
    next.head?.or cs.head?
  else cs.head?

/-! ## Escapes -/

def hexValue? (c : Char) : Option Nat :=
  if c.isDigit then some (c.toNat - '0'.toNat)
  else if 'a' ≤ c ∧ c ≤ 'f' then some (c.toNat - 'a'.toNat + 10)
  else if 'A' ≤ c ∧ c ≤ 'F' then some (c.toNat - 'A'.toNat + 10)
  else none

/-- A number of so many hexadecimal digits. -/
def readHex? (spaced : Bool) : (digits value : Nat) → List Char → Option (Nat × List Char)
  | 0, value, cs => some (value, cs)
  | _ + 1, _, [] => none
  | digits + 1, value, c :: rest =>
    match hexValue? c with
    | none => none
    | some d => readHex? spaced digits (16 * value + d) (pass spaced rest)

def readHexLetter? (spaced : Bool) (digits : Nat) (cs : List Char) :
    Option (Letter × List Char) := do
  let (value, rest) ← readHex? spaced digits 0 (pass spaced cs)
  if value.isValidChar then some (⟨Char.ofNat value, digits == 2⟩, rest) else none

/-- What a backslash and the characters behind it stand for. -/
inductive Escape where
  | letter (l : Letter)
  | shorthand (negated : Bool)
  | edge
  | wordEdge

def Escape.pattern : Escape → Pattern
  | .letter l => .letter l
  | .shorthand negated => .shorthand negated
  | .edge => .edge
  | .wordEdge => .wordEdge

def controlLetters : List (Char × Char) :=
  [('a', '\x07'), ('f', '\x0c'), ('n', '\n'), ('r', '\r'), ('t', '\t'), ('v', '\x0b')]

/-- Reads behind a backslash.  Any ASCII sign that is no letter and no digit may be
escaped, the angle brackets apart, which then are ends of words. -/
def readEscape? (spaced : Bool) : List Char → Option (Escape × List Char)
  | [] => none
  | c :: rest =>
    if c = 'x' then (readHexLetter? spaced 2 rest).map fun r => (.letter r.1, r.2)
    else if c = 'u' then (readHexLetter? spaced 4 rest).map fun r => (.letter r.1, r.2)
    else if c = 'U' then (readHexLetter? spaced 8 rest).map fun r => (.letter r.1, r.2)
    else if "dsw".toList.contains c then some (.shorthand false, rest)
    else if "DSW".toList.contains c then some (.shorthand true, rest)
    else if "Az".toList.contains c then some (.edge, rest)
    else if "bB<>".toList.contains c then some (.wordEdge, rest)
    else
      match controlLetters.lookup c with
      | some control => some (.letter (.plain control), rest)
      | none =>
        if c.toNat < 0x80 && !c.isAlphanum then some (.letter (.plain c), rest) else none

/-! ## Classes of characters -/

def classNames : List String :=
  ["alnum", "alpha", "ascii", "blank", "cntrl", "digit", "graph", "lower", "print", "punct",
   "space", "upper", "word", "xdigit"]

/-- The name of a class behind its opening bracket; whether it is negated, and the text
behind it. -/
def readNamed? (cs : List Char) : Option (Bool × List Char) :=
  match cs with
  | ':' :: cs =>
    let (negated, cs) :=
      match cs with
      | '^' :: cs => (true, cs)
      | cs => (false, cs)
    match cs.dropWhile (· ≠ ':') with
    | ':' :: ']' :: rest =>
      if classNames.contains (String.ofList (cs.takeWhile (· ≠ ':'))) then some (negated, rest)
      else none
    | _ => none
  | _ => none

/-- A character of a class, written as it is or escaped. -/
def readMemberSign? (spaced : Bool) : List Char → Option (Escape × List Char)
  | [] => none
  | '\\' :: rest => readEscape? spaced rest
  | c :: rest => some (.letter (.plain c), rest)

/-- A character of a class or a range of them.  A hyphen before the end of the class or
before another hyphen makes no range. -/
def readRange? (spaced : Bool) (cs : List Char) : Option (Member × List Char) := do
  let (first, rest) ← readMemberSign? spaced cs
  let alone : Option (Member × List Char) :=
    match first with
    | .letter l => some (.letter l, pass spaced rest)
    | .shorthand negated => some (.shorthand negated, pass spaced rest)
    | _ => none
  match pass spaced rest with
  | '-' :: rest =>
    if [some ']', some '-'].contains (ahead? spaced rest) then alone
    else
      let (last, rest) ← readMemberSign? spaced (pass spaced rest)
      match first, last with
      | .letter first, .letter last =>
        if first.char ≤ last.char then some (.range first last, rest) else none
      | _, _ => none
  | _ => alone

def unionOf (ms : List Member) : Member :=
  match ms with
  | [] => .nothing
  | [m] => m
  | ms => .union ms.reverse

/-- The members read last, with what stands on the left of the operation before them. -/
def operandOf (left : Option Member) (ms : List Member) : Member :=
  match left with
  | none => unionOf ms
  | some left => .operation left (unionOf ms)

mutual

/-- A class behind its opening bracket. -/
def readClass? (spaced : Bool) : Nat → List Char → Option (Member × List Char)
  | 0, _ => none
  | fuel + 1, cs =>
    let (negated, cs) :=
      match pass spaced cs with
      | '^' :: cs => (true, cs)
      | cs => (false, cs)
    (readMembers? spaced fuel true none [] cs).map fun r => (.nested negated r.1, r.2)

/-- The members of a class up to its closing bracket.  At the start hyphens stand for
themselves, and so does a bracket that would close an empty class. -/
def readMembers? (spaced : Bool) : Nat → (atStart : Bool) → Option Member → List Member →
    List Char → Option (Member × List Char)
  | 0, _, _, _, _ => none
  | fuel + 1, atStart, left, ms, cs =>
    let operand := some (operandOf left ms)
    match pass spaced cs with
    | [] => none
    | c :: rest =>
      if atStart && c == '-' then
        readMembers? spaced fuel true left (.letter (.plain c) :: ms) rest
      else if atStart && c == ']' && ms.isEmpty then
        readMembers? spaced fuel false left [.letter (.plain c)] rest
      else
        match c, rest with
        | '[', rest =>
          match readNamed? rest with
          | some (negated, rest) =>
            readMembers? spaced fuel false left (.named negated :: ms) rest
          | none =>
            match readClass? spaced fuel rest with
            | some (m, rest) => readMembers? spaced fuel false left (m :: ms) rest
            | none => none
        | ']', rest => operand.map (·, rest)
        | '&', '&' :: rest => readMembers? spaced fuel false operand [] rest
        | '-', '-' :: rest => readMembers? spaced fuel false operand [] rest
        | '~', '~' :: rest => readMembers? spaced fuel false operand [] rest
        | c, rest =>
          match readRange? spaced (c :: rest) with
          | some (m, rest) => readMembers? spaced fuel false left (m :: ms) rest
          | none => none

end

/-! ## Groups -/

/-- Switches, the sign that ends them and the text behind it.  Each is set once; one has
to follow a hyphen. -/
def readSwitches? (seen : List Char) : List Char → Option (List Char × Char × List Char)
  | [] => none
  | c :: rest =>
    if c = ':' ∨ c = ')' then
      if seen.head? = some '-' then none else some (seen.reverse, c, rest)
    else if "-imsURux".toList.contains c && !seen.contains c then
      readSwitches? (c :: seen) rest
    else none

/-- The name of a group and the text behind its closing bracket. -/
def readName? (cs : List Char) : Option (List Char × List Char) :=
  match cs.takeWhile (· ≠ '>'), cs.dropWhile (· ≠ '>') with
  | c :: name, _ :: rest =>
    if (c == '_' || Text.isAlphabetic c) &&
        name.all (fun c => "_.[]".toList.contains c || Text.isAlphanumeric c) then
      some (c :: name, rest)
    else none
  | _, _ => none

/-- What was read before the group that is being read. -/
structure Opened where
  switches : List Char
  branches : List Pattern
  items : List Pattern
  spaced : Bool

/-- A pattern that is being read: the groups around, the innermost first, the names of
groups so far, and in the innermost group the branches before this one and the items of
this one, the last first. -/
structure Draft where
  opened : List Opened
  names : List (List Char)
  branches : List Pattern
  items : List Pattern
  spaced : Bool

namespace Draft

def empty : Draft := ⟨[], [], [], [], false⟩

def add (d : Draft) (p : Pattern) : Draft := { d with items := p :: d.items }

/-- The items of this branch as one pattern. -/
def branch (d : Draft) : Pattern :=
  match d.items with
  | [] => .nothing
  | [p] => p
  | items => .sequence items.reverse

/-- All that was read in this group. -/
def inside (d : Draft) : Pattern :=
  if d.branches.isEmpty then d.branch else .alternatives (d.branch :: d.branches).reverse

def nextBranch (d : Draft) : Draft := { d with branches := d.branch :: d.branches, items := [] }

def openGroup (d : Draft) (switches : List Char) : Draft :=
  { d with
    opened := ⟨switches, d.branches, d.items, d.spaced⟩ :: d.opened
    branches := []
    items := []
    spaced := (switchedTo? switches 'x').getD d.spaced }

def closeGroup? (d : Draft) : Option Draft :=
  match d.opened with
  | [] => none
  | o :: opened =>
    some { d with
      opened := opened
      branches := o.branches
      items := .group o.switches d.inside :: o.items
      spaced := o.spaced }

/-- Repeats the last item, if it is one that can be repeated. -/
def repeatLast? (d : Draft) : Option Draft :=
  match d.items with
  | [] | .nothing :: _ | .setting _ :: _ => none
  | p :: items => some { d with items := .repeated p :: items }

/-- Opens a group with a name that is new. -/
def openNamed? (d : Draft) (cs : List Char) : Option (Draft × List Char) :=
  match readName? cs with
  | some (name, rest) =>
    if d.names.contains name then none
    else some ({ d.openGroup [] with names := name :: d.names }, rest)
  | none => none

/-- Reads behind an opening parenthesis. -/
def readGroup? (d : Draft) (cs : List Char) : Option (Draft × List Char) :=
  match pass d.spaced cs with
  | '?' :: 'P' :: '<' :: rest => d.openNamed? rest
  | '?' :: '<' :: rest => d.openNamed? rest
  | '?' :: rest =>
    match readSwitches? [] rest with
    | none => none
    | some (switches, ends, rest) =>
      if ends = ':' then some (d.openGroup switches, rest)
      else if switches.isEmpty then none
      else
        let d := d.add (.setting switches)
        some ({ d with spaced := (switchedTo? switches 'x').getD d.spaced }, rest)
  | rest => some (d.openGroup [], rest)

/-- Reads one sign of a pattern. -/
def readSign? (d : Draft) (c : Char) (rest : List Char) : Option (Draft × List Char) :=
  if c = '(' then d.readGroup? rest
  else if c = ')' then d.closeGroup?.map (·, rest)
  else if c = '|' then some (d.nextBranch, rest)
  else if c = '[' then
    (readClass? d.spaced (2 * rest.length + 2) rest).map fun r => (d.add (.oneOf r.1), r.2)
  else if c = '?' ∨ c = '*' ∨ c = '+' then
    d.repeatLast?.map (·, if rest.head? = some '?' then rest.tail else rest)
  else if c = '\x7b' then none
  else if c = '\\' then (readEscape? d.spaced rest).map fun r => (d.add r.1.pattern, r.2)
  else if c = '.' then some (d.add .anything, rest)
  else if c = '^' ∨ c = '$' then some (d.add .edge, rest)
  else some (d.add (.letter (.plain c)), rest)

/-- Reads sign by sign; `fuel` bounds their number. -/
def read? : Nat → Draft → List Char → Option Pattern
  | 0, _, _ => none
  | fuel + 1, d, cs =>
    match pass d.spaced cs with
    | [] => if d.opened.isEmpty then some d.inside else none
    | c :: rest =>
      match d.readSign? c rest with
      | some (d, rest) => read? fuel d rest
      | none => none

end Draft

def Pattern.ofText? (text : String) : Option Pattern :=
  Draft.empty.read? (text.toList.length + 1) text.toList

/-- The text is a pattern that can be used. -/
def isPatternText (text : String) : Bool := (Pattern.ofText? text).any Pattern.isUsable

end Backchannel.LogFilter
