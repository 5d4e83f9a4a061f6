/-
# Backchannel.LogFilter.Pattern -- patterns for the values of fields

The value of a field may be held against a pattern, a regular expression.  Patterns
are never matched here; what counts is whether one can be used at all.  A `Pattern`
keeps what decides that: its shape, the characters it names, and its switches.

Patterns run over characters or, where the switch `u` is off, over octets.  Two
things are not to be had.  What rests on tables of all characters (letters in either
case, digits, words, blanks) is at hand for octets only.  And what runs over octets
may only match ASCII, since the texts held against patterns are sound.
-/
import Backchannel.Text.Blank

namespace Backchannel.LogFilter

set_option autoImplicit false

/-- A character of a pattern.  Two hexadecimal digits write an octet, where patterns
run over octets. -/
structure Letter where
  char : Char
  isOctet : Bool
  deriving DecidableEq

def Letter.plain (c : Char) : Letter := ⟨c, false⟩

def Letter.isAscii (l : Letter) : Bool := l.char.toNat < 0x80

/-- What stands between the brackets of a class of characters. -/
inductive Member where
  | nothing
  | letter (l : Letter)
  | range (first last : Letter)
  /-- A class of ASCII characters by its name. -/
  | named (negated : Bool)
  /-- Digits, blanks or the characters of words. -/
  | shorthand (negated : Bool)
  | nested (negated : Bool) (inside : Member)
  | union (ms : List Member)
  /-- An intersection or a difference. -/
  | operation (left right : Member)

inductive Pattern where
  | nothing
  | letter (l : Letter)
  | anything
  /-- An end of the text or of a line. -/
  | edge
  /-- An end of a word, or no end of one. -/
  | wordEdge
  | shorthand (negated : Bool)
  | oneOf (m : Member)
  | repeated (p : Pattern)
  /-- Switches that hold up to the end of the group around them. -/
  | setting (switches : List Char)
  | group (switches : List Char) (p : Pattern)
  | sequence (ps : List Pattern)
  | alternatives (ps : List Pattern)

/-! ## Depth -/

mutual

def Member.depth : Member → Nat
  | .nested _ inside => inside.depth + 1
  | .union ms => Member.depthOfAll ms + 1
  | .operation left right => max left.depth right.depth + 1
  | _ => 0

def Member.depthOfAll : List Member → Nat
  | [] => 0
  | m :: ms => max m.depth (Member.depthOfAll ms)

end

mutual

/-- How many constructs lie within each other. -/
def Pattern.depth : Pattern → Nat
  | .oneOf m => m.depth
  | .repeated p => p.depth + 1
  | .group _ p => p.depth + 1
  | .sequence ps => Pattern.depthOfAll ps + 1
  | .alternatives ps => Pattern.depthOfAll ps + 1
  | _ => 0

def Pattern.depthOfAll : List Pattern → Nat
  | [] => 0
  | p :: ps => max p.depth (Pattern.depthOfAll ps)

end

def depthLimit : Nat := 250

/-! ## Use -/

/-- The state of a switch that a list sets.  Those behind a hyphen are switched off. -/
def switchedTo? (switches : List Char) (switch : Char) : Option Bool :=
  if switches.contains switch then some ((switches.takeWhile (· ≠ '-')).contains switch)
  else none

/-- The switches that bear on the use of a pattern. -/
structure Scope where
  eitherCase : Bool
  characters : Bool
  deriving DecidableEq, Repr

def Scope.initial : Scope := ⟨false, true⟩

def Scope.set (scope : Scope) (switches : List Char) : Scope where
  eitherCase := (switchedTo? switches 'i').getD scope.eitherCase
  characters := (switchedTo? switches 'u').getD scope.characters

mutual

def Member.isUsable (scope : Scope) : Member → Bool
  | .nothing => true
  | .letter l => if scope.characters then !scope.eitherCase else l.isAscii
  | .range first last =>
    if scope.characters then !scope.eitherCase else first.isAscii && last.isAscii
  | .named negated => if scope.characters then !scope.eitherCase else !negated
  | .shorthand negated => !scope.characters && !negated
  | .nested negated inside => inside.isUsable scope && (scope.characters || !negated)
  | .union ms => Member.areUsable scope ms
  | .operation left right => left.isUsable scope && right.isUsable scope

def Member.areUsable (scope : Scope) : List Member → Bool
  | [] => true
  | m :: ms => m.isUsable scope && Member.areUsable scope ms

end

mutual

/-- The switches behind a pattern that can be used. -/
def Pattern.scopeBehind? (scope : Scope) : Pattern → Option Scope
  | .nothing | .edge => some scope
  | .letter l =>
    let usable := if scope.characters then !scope.eitherCase else !l.isOctet || l.isAscii
    if usable then some scope else none
  | .anything => if scope.characters then some scope else none
  | .wordEdge => if scope.characters then none else some scope
  | .shorthand negated => if !scope.characters && !negated then some scope else none
  | .oneOf m => if m.isUsable scope then some scope else none
  | .repeated p => p.scopeBehind? scope
  | .setting switches => some (scope.set switches)
  | .group switches p => (p.scopeBehind? (scope.set switches)).map fun _ => scope
  | .sequence ps => Pattern.scopeBehindAll? scope ps
  | .alternatives ps => Pattern.scopeBehindAll? scope ps

def Pattern.scopeBehindAll? (scope : Scope) : List Pattern → Option Scope
  | [] => some scope
  | p :: ps =>
    match p.scopeBehind? scope with
    | some scope => Pattern.scopeBehindAll? scope ps
    | none => none

end

def Pattern.isUsable (p : Pattern) : Bool :=
  p.depth ≤ depthLimit && (p.scopeBehind? .initial).isSome

end Backchannel.LogFilter
