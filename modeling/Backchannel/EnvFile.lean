/-
# Backchannel.EnvFile -- files of variables

A file of variables holds a line `NAME=value` for each.  Blank lines and lines that
start with `#` say nothing; a name may stand behind the word `export`.  Values may
be quoted, then they may go over several lines; outside single quotes a backslash
escapes, and `$NAME` and `${NAME}` stand for the value of a variable.

Reading goes in two stages.  `nextEntry` takes the lines of one entry together, by
the quotes that are open at the end of each.  `readEntry` reads the entry.

Loading puts variables into an environment one by one.  What is there already stays,
and what was put in before a faulty line stays as well.
-/
import Backchannel.Keyed
import Backchannel.Text.Alphanumeric
import Backchannel.Text.Blank
import Backchannel.Text.Lines

namespace Backchannel

set_option autoImplicit false

open Backchannel.Text.Utf8 (Bytes byteCount)
open Backchannel.Text (isAlphanumeric isBlank trimRight)

/-- Variables and their values. -/
abbrev Environment := Keyed String String

namespace EnvFile

/-- Why a file cannot be loaded. -/
inductive Failure where
  /-- There is no such file. -/
  | missing
  /-- A line is not text. -/
  | notText
  /-- An entry cannot be read; `index` says where in `line`. -/
  | badLine (line : String) (index : Nat)
  deriving DecidableEq, Repr

def Failure.message : Failure → String
  | .missing => "No such file or directory (os error 2)"
  | .notText => "stream did not contain valid UTF-8"
  | .badLine line index => s!"Error parsing line: '{line}', error at line index: {index}"

/-- What is told of the failure beneath this one, if there is one. -/
def Failure.source : Failure → Option String
  | .missing => some Failure.missing.message
  | .notText => some Failure.notText.message
  | .badLine _ _ => none

/-! ## Entries -/

/-- What is open at some point of an entry. -/
inductive Open where
  | nothing
  /-- The same, behind a blank: here a comment may start. -/
  | blank
  | escape
  | single
  | singleEscape
  | double
  | doubleEscape
  deriving DecidableEq, Repr

/-- What is open after one more character; `none` where a comment starts. -/
def Open.step : Open → Char → Option Open
  | .blank, '#' => none
  | .blank, c | .nothing, c =>
    if c = '\\' then some .escape
    else if c = '"' then some .double
    else if c = '\'' then some .single
    else some .nothing
  | .escape, _ => some .nothing
  | .double, c =>
    if c = '\\' then some .doubleEscape else if c = '"' then some .nothing else some .double
  | .doubleEscape, _ => some .double
  | .single, c =>
    if c = '\\' then some .singleEscape else if c = '\'' then some .nothing else some .single
  | .singleEscape, _ => some .single

/-- A blank within a line opens the place for a comment, if nothing else is open. -/
def Open.next (o : Open) (c : Char) : Option Open :=
  if o = .nothing ∧ isBlank c = true ∧ c ≠ '\n' ∧ c ≠ '\r' then some .blank else o.step c

/-- Goes through a line.  The answer is what is open at its end; or, where a comment
starts, the part before it. -/
def scan : Open → List Char → List Char → Except (List Char) Open
  | o, _, [] => .ok o
  | o, seen, c :: rest =>
    match o.next c with
    | some o => scan o (c :: seen) rest
    | none => .error seen.reverse

/-- The line without the line feed, or carriage return and line feed, that ends it. -/
def chomp (cs : List Char) : List Char :=
  match cs.reverse with
  | '\n' :: '\r' :: rest => rest.reverse
  | '\n' :: rest => rest.reverse
  | _ => cs

def startsWithHash (cs : List Char) : Bool := (cs.dropWhile isBlank).head? == some '#'

/-- Takes the lines of one entry.  `sofar` holds those taken before, and `o` says
what they leave open.  The answer is the entry, if there is one, and the lines
behind it. -/
def nextEntry (sofar : List Char) (o : Open) :
    List Bytes → Except Failure (Option (List Char × List Bytes))
  | [] =>
    if o = .nothing then .ok none
    else .error (.badLine (String.ofList sofar) (byteCount sofar))
  | line :: rest =>
    match Text.Utf8.decode line with
    | .error _ => .error .notText
    | .ok cs =>
      let entry := sofar ++ cs
      if startsWithHash entry then .ok (some ([], rest))
      else
        match scan o [] cs with
        | .error before => .ok (some (sofar ++ before, rest))
        | .ok .nothing => .ok (some (chomp entry, rest))
        | .ok o => nextEntry entry o rest

/-! ## Values -/

/-- A name that is being read after a dollar sign. -/
inductive Naming where
  | none
  /-- Without braces: letters and digits. -/
  | bare
  /-- Up to the closing brace. -/
  | braced
  deriving DecidableEq, Repr

structure ValueState where
  single : Bool
  double : Bool
  escaped : Bool
  /-- The value has ended; only blanks and a comment may follow. -/
  ended : Bool
  naming : Naming
  /-- The name so far, last character first. -/
  name : List Char
  /-- The value so far, last character first. -/
  value : List Char

namespace ValueState

def start : ValueState := ⟨false, false, false, false, .none, [], []⟩

def push (c : Char) (s : ValueState) : ValueState := { s with value := c :: s.value }

/-- Puts the value of the name that was read in its place. -/
def substitute (lookup : String → String) (s : ValueState) : ValueState :=
  { s with
    value := (lookup (String.ofList s.name.reverse)).toList.reverse ++ s.value
    name := []
    naming := .none }

def escapedChar? (c : Char) : Option Char :=
  if c = '\\' ∨ c = '\'' ∨ c = '"' ∨ c = '$' ∨ c = ' ' then some c
  else if c = 'n' then some '\n'
  else none

/-- One character while a name is read. -/
def stepName (lookup : String → String) (s : ValueState) (c : Char) :
    ValueState :=
  if isAlphanumeric c then { s with name := c :: s.name }
  else
    match s.naming with
    | .braced => if c = '}' then s.substitute lookup else { s with name := c :: s.name }
    | _ =>
      if c = '{' ∧ s.name.isEmpty = true then { s with naming := .braced }
      else
        let s := s.substitute lookup
        if c = '$' then { s with naming := .bare } else s.push c

/-- One character of a value; `none` where it may not stand. -/
def step (lookup : String → String) (s : ValueState) (c : Char) :
    Option ValueState :=
  if s.escaped then (escapedChar? c).map fun c => { s.push c with escaped := false }
  else if s.single then some (if c = '\'' then { s with single := false } else s.push c)
  else if s.naming ≠ .none then some (s.stepName lookup c)
  else if c = '$' then some { s with naming := .bare }
  else if s.double then
    some (if c = '"' then { s with double := false }
      else if c = '\\' then { s with escaped := true }
      else s.push c)
  else if c = '\'' then some { s with single := true }
  else if c = '"' then some { s with double := true }
  else if c = '\\' then some { s with escaped := true }
  else if c = ' ' ∨ c = '\t' then some { s with ended := true }
  else some (s.push c)

end ValueState

/-- The end of a value: quotes and braces are closed. -/
def endValue (lookup : String → String) (whole : List Char) (s : ValueState) :
    Except Failure String :=
  if s.naming = .braced ∨ s.single = true ∨ s.double = true then
    .error (.badLine (String.ofList whole) (byteCount whole - 1))
  else .ok (String.ofList (s.substitute lookup).value.reverse)

/-- Reads a value.  `index` counts the characters before `cs`. -/
def readValue (lookup : String → String) (whole : List Char) :
    Nat → ValueState → List Char → Except Failure String
  | _, s, [] => endValue lookup whole s
  | index, s, c :: rest =>
    let fault : Except Failure String := .error (.badLine (String.ofList whole) index)
    if s.ended then
      if c = ' ' ∨ c = '\t' then readValue lookup whole (index + 1) s rest
      else if c = '#' then endValue lookup whole s
      else fault
    else
      match s.step lookup c with
      | some s => readValue lookup whole (index + 1) s rest
      | none => fault

/-! ## Names -/

def isNameStart (c : Char) : Bool := c.isAlpha || c == '_'

def isNameRest (c : Char) : Bool := c.isAlphanum || c == '_' || c == '.'

/-- A name and what follows it. -/
def readName (cs : List Char) : Option (List Char × List Char) :=
  match cs with
  | c :: _ =>
    if isNameStart c then some (cs.takeWhile isNameRest, cs.dropWhile isNameRest) else none
  | [] => none

/-- A name, an equals sign, and what follows the blanks behind it.  On a fault the
answer is what is left of the entry there. -/
def readHead (cs : List Char) : Except (List Char) (String × List Char) :=
  match readName cs with
  | none => .error cs
  | some (name, rest) =>
    match rest.dropWhile isBlank with
    | '=' :: rest => .ok (String.ofList name, rest.dropWhile isBlank)
    | rest =>
      if name = "export".toList then
        match readName rest with
        | none => .error rest
        | some (name, rest) =>
          match rest.dropWhile isBlank with
          | '=' :: rest => .ok (String.ofList name, rest.dropWhile isBlank)
          | rest => .error rest
      else .error rest

/-- Reads an entry: a name and its value, or nothing. -/
def readEntry (lookup : String → String) (entry : List Char) :
    Except Failure (Option (String × String)) :=
  let trimmed := trimRight isBlank entry
  match trimmed.dropWhile isBlank with
  | [] | '#' :: _ => .ok none
  | cs =>
    match readHead cs with
    | .error left =>
      .error (.badLine (String.ofList entry) (byteCount trimmed - byteCount left))
    | .ok (name, []) | .ok (name, '#' :: _) => .ok (some (name, ""))
    | .ok (name, value) =>
      (readValue lookup value 0 .start value).map fun v => some (name, v)

/-! ## Loading -/

/-- The bytes without the mark that some editors put in front. -/
def dropMark : Bytes → Bytes
  | 0xEF :: 0xBB :: 0xBF :: rest => rest
  | bytes => bytes

/-- What stands behind the beginning `front` of a text. -/
def behind? : (front text : List Char) → Option (List Char)
  | [], text => some text
  | f :: front, c :: text => if f = c then behind? front text else none
  | _ :: _, [] => none

/-- The value of a variable, empty if there is none.  An environment is a list of texts
`NAME=VALUE`, and a name is found where the name and an equals sign begin such a text; so a
name that holds an equals sign may reach into a value.  No variable has the empty name. -/
def valueOf (env : Environment) (name : String) : String :=
  if name.isEmpty then ""
  else
    let texts := env.map fun (name, value) => name.toList ++ '=' :: value.toList
    ((texts.findSome? (behind? (name.toList ++ ['=']))).map String.ofList).getD ""

/-- Puts in a variable, unless it is there. -/
def putNew (name value : String) (env : Environment) : Environment :=
  if env.contains name then env else env.insert name value

/-- Loads entry by entry; `fuel` bounds their number.  The answer holds the
environment as far as it was loaded. -/
def loadLines : Nat → List Bytes → Environment → Except Failure Unit × Environment
  | 0, _, env => (.ok (), env)
  | fuel + 1, lines, env =>
    match nextEntry [] .nothing lines with
    | .error e => (.error e, env)
    | .ok none => (.ok (), env)
    | .ok (some (entry, rest)) =>
      match readEntry (valueOf env) entry with
      | .error e => (.error e, env)
      | .ok none => loadLines fuel rest env
      | .ok (some (name, value)) => loadLines fuel rest (putNew name value env)

/-- Loads the variables of a file into an environment. -/
def load (bytes : Bytes) (env : Environment) : Except Failure Unit × Environment :=
  let lines := Text.splitLines (dropMark bytes)
  loadLines (lines.length + 1) lines env

end EnvFile

end Backchannel
