/-
# Backchannel.LogFilter -- which log lines are kept

A filter is a list of directives with commas between them.  A directive names a
level, or a target, a span and fields of the span, with or without a level:

    info
    store::disk=debug
    store[write{key}]=trace

Directives are kept in two tables, each in the order in which they are tried: the
most specific first.  `fixed` ones can be decided from the place that logs alone;
`dynamic` ones look at spans.  A directive that only names fields is in both.

A filter without a directive keeps nothing.  Text that is no filter counts as `info`.
-/
import Backchannel.LogFilter.PatternText
import Backchannel.Numeric.Layout
import Backchannel.Numeric.Literal

namespace Backchannel

set_option autoImplicit false

namespace LogFilter

inductive Level where
  | off
  | error
  | warn
  | info
  | debug
  | trace
  deriving DecidableEq, Repr

namespace Level

def all : List Level := [.off, .error, .warn, .info, .debug, .trace]

def name : Level → String
  | .off => "off"
  | .error => "error"
  | .warn => "warn"
  | .info => "info"
  | .debug => "debug"
  | .trace => "trace"

/-- The level of a name in either case, or of its number from 0 to 5.  No text at all
stands for `error`. -/
def ofText? (s : String) : Option Level :=
  match Numeric.readWhole (Numeric.wordValues 64) s with
  | .ok n => all[n]?
  | .error _ =>
    if s.isEmpty then some .error
    else all.find? fun l => l.name == String.ofList (s.toList.map Char.toLower)

end Level

/-- The value that a field has to have.  A number is kept in the first of these forms that
can hold it: a word, a word with a sign, a real number. -/
inductive FieldValue where
  | bool (b : Bool)
  | real (x : Numeric.Extended)
  | word (n : Nat)
  | signed (i : Int)
  | pattern (text : String)
  deriving DecidableEq

/-- A field of a span, and the value that it has to have, if any. -/
structure Field where
  name : String
  value : Option FieldValue
  deriving DecidableEq

structure Directive where
  level : Level
  target : Option String
  span : Option String
  fields : List Field
  deriving DecidableEq

/-! ## Reading -/

/-- A whole number below zero, or zero with a sign. -/
def signed? (s : String) : Option Int :=
  match s.toList with
  | '-' :: '+' :: _ => none
  | '-' :: rest =>
    match Numeric.readWhole (Numeric.wordValues 63 + 1) (String.ofList rest) with
    | .ok n => some (-n)
    | .error _ => none
  | _ => none

/-- What is no truth value and no number has to be a pattern that can be used. -/
def FieldValue.ofText? (s : String) : Option FieldValue :=
  if s = "true" then some (.bool true)
  else if s = "false" then some (.bool false)
  else
    match Numeric.readWhole (Numeric.wordValues 64) s, signed? s, Numeric.readReal s with
    | .ok n, _, _ => some (.word n)
    | .error _, some i, _ => some (.signed i)
    | .error _, none, some x => some (.real x)
    | .error _, none, none => if isPatternText s then some (.pattern s) else none

/-- A field, with the value behind an equals sign; what follows another one is
dropped. -/
def Field.ofText? (cs : List Char) : Option Field :=
  let name := String.ofList (cs.takeWhile (· ≠ '='))
  match cs.dropWhile (· ≠ '=') with
  | [] => some ⟨name, none⟩
  | _ :: rest =>
    (FieldValue.ofText? (String.ofList (rest.takeWhile (· ≠ '=')))).map fun value =>
      ⟨name, some value⟩

/-- What is being read.  The numbers tell at which byte it began. -/
inductive Reading where
  | start
  | levelOrTarget (first : Nat)
  | span (first : Nat)
  | field (first : Nat)
  | fields
  | target
  | level (first : Nat)
  deriving DecidableEq, Repr

/-- The text behind that many bytes. -/
def dropBytes : Nat → List Char → List Char
  | 0, cs => cs
  | _ + 1, [] => []
  | n + 1, c :: cs => dropBytes (n + 1 - c.utf8Size) cs

/-- The text up to that many bytes. -/
def takeBytes : Nat → List Char → List Char
  | 0, _ => []
  | _ + 1, [] => []
  | n + 1, c :: cs => c :: takeBytes (n + 1 - c.utf8Size) cs

def slice (cs : List Char) (first last : Nat) : List Char :=
  takeBytes (last - first) (dropBytes first cs)

/-- May stand at the start of a level or of a target. -/
def opensTarget (c : Char) : Bool :=
  c == '-' || c == ':' || c == '_' || Text.isAlphanumeric c

/-- One character of a directive, at byte `i`; `none` where it may not stand. -/
def Directive.step (whole : List Char) (i : Nat) (c : Char) (d : Directive) :
    Reading → Option (Reading × Directive)
  | .start =>
    if c = '[' then some (.span (i + 1), d)
    else if opensTarget c then some (.levelOrTarget i, d)
    else none
  | .levelOrTarget first =>
    let named := { d with target := some (String.ofList (slice whole first i)) }
    if c = '=' then some (.level (i + 1), named)
    else if c = '[' then some (.span (i + 1), named)
    else some (.levelOrTarget first, d)
  | .span first =>
    let name := slice whole first i
    if c = ']' then some (.target, { d with span := some (String.ofList name) })
    else if c = '\x7b' then
      some (.field (i + 1),
        { d with span := if name.isEmpty then none else some (String.ofList name) })
    else some (.span first, d)
  | .field first =>
    let text := slice whole first i
    if c = '\x7d' then
      if text.isEmpty then none
      else (Field.ofText? text).map fun field =>
        (.fields, { d with fields := d.fields ++ [field] })
    else some (.field first, d)
  | .fields => if c = ']' then some (.target, d) else none
  | .target => if c = '=' then some (.level (i + 1), d) else none
  | .level first => some (.level first, d)

/-- The end of a directive. -/
def Directive.finish (whole : List Char) (d : Directive) : Reading → Option Directive
  | .levelOrTarget first =>
    let text := String.ofList (dropBytes first whole)
    match Level.ofText? text with
    | some level => some { d with level := level, target := none }
    | none => some { d with level := .trace, target := some text }
  | .level first =>
    let text := dropBytes first whole
    if text.isEmpty then some { d with level := .trace }
    else (Level.ofText? (String.ofList text)).map fun level => { d with level := level }
  | .target => some d
  | .start | .span _ | .field _ | .fields => none

def Directive.read (whole : List Char) (i : Nat) (d : Directive) (place : Reading) :
    List Char → Option Directive
  | [] => d.finish whole place
  | c :: rest =>
    match d.step whole i c place with
    | none => none
    | some (place, d) => Directive.read whole (i + c.utf8Size) d place rest

/-- The directive of a text.  Blanks at its ends do not count as characters of it, but
names and levels are cut from the text with them. -/
def Directive.ofText? (whole : List Char) : Option Directive :=
  Directive.read whole 0 ⟨.trace, none, none, []⟩ .start (Text.trimBoth Text.isBlank whole)

/-! ## The two tables -/

namespace Directive

/-- Decided by spans. -/
def isDynamic (d : Directive) : Bool := d.span.isSome || !d.fields.isEmpty

/-- Can be decided, in part at least, from the place that logs alone. -/
def isFixed (d : Directive) : Bool := d.span.isNone && d.fields.all fun f => f.value.isNone

end Directive

def compareList {α : Type} (compareItem : α → α → Ordering) : List α → List α → Ordering
  | [], [] => .eq
  | [], _ :: _ => .lt
  | _ :: _, [] => .gt
  | a :: as, b :: bs => (compareItem a b).then (compareList compareItem as bs)

def compareText (a b : String) : Ordering :=
  compareList (fun (x y : Char) => compare x.toNat y.toNat) a.toList b.toList

def compareOption {α : Type} (compareItem : α → α → Ordering) : Option α → Option α → Ordering
  | none, none => .eq
  | none, some _ => .lt
  | some _, none => .gt
  | some a, some b => compareItem a b

/-- The place of a number among all, that of no number behind them.  Both zeros have the
same. -/
def placeOf : Numeric.Extended → Int
  | .finite x => if x.negative then -x.rank else x.rank
  | .infinite negative => if negative then -Numeric.rankBound else Numeric.rankBound
  | .notANumber => Numeric.rankBound + 1

def FieldValue.form : FieldValue → Nat
  | .bool _ => 0
  | .real _ => 1
  | .word _ => 2
  | .signed _ => 3
  | .pattern _ => 4

/-- Values are ordered by their form and within a form, so that one number in two forms is
two values. -/
def FieldValue.compare : FieldValue → FieldValue → Ordering
  | .bool a, .bool b => Ord.compare a b
  | .real x, .real y => Ord.compare (placeOf x) (placeOf y)
  | .word m, .word n => Ord.compare m n
  | .signed i, .signed j => Ord.compare i j
  | .pattern a, .pattern b => compareText a b
  | v, w => Ord.compare v.form w.form

def Field.compare (a b : Field) : Ordering :=
  ((Ord.compare a.value.isSome b.value.isSome).then (compareText a.name b.name)).then
    (compareOption FieldValue.compare a.value b.value)

/-- The more specific of two directives is the greater one: by the length of its
target, a span, the number of its fields, and then by their texts. -/
def Directive.compare (a b : Directive) : Ordering :=
  (compareOption (fun (s t : String) => Ord.compare s.utf8ByteSize t.utf8ByteSize)
      a.target b.target).then <|
  (Ord.compare a.span.isSome b.span.isSome).then <|
  (Ord.compare a.fields.length b.fields.length).then <|
  (compareOption compareText a.target b.target).then <|
  (compareOption compareText a.span b.span).then <|
  compareList Field.compare a.fields b.fields

/-- Puts a directive behind all more specific ones.  It replaces one that differs
in its level only. -/
def addDirective (d : Directive) : List Directive → List Directive
  | [] => [d]
  | e :: rest =>
    match Directive.compare e d with
    | .gt => e :: addDirective d rest
    | .eq => d :: rest
    | .lt => d :: e :: rest

def table (ds : List Directive) : List Directive := ds.foldl (fun t d => addDirective d t) []

end LogFilter

open LogFilter in
structure LogFilter where
  fixed : List Directive
  dynamic : List Directive
  deriving DecidableEq

namespace LogFilter

/-- The filter that keeps a level everywhere. -/
def ofLevel (level : Level) : LogFilter := ⟨[⟨level, none, none, []⟩], []⟩

def ofDirectives (ds : List Directive) : LogFilter :=
  let dynamic := ds.filter Directive.isDynamic
  let fixed := (ds.filter fun d => !d.isDynamic) ++ dynamic.filter Directive.isFixed
  ⟨table fixed, table dynamic⟩

/-- The directives of a text; empty ones are skipped. -/
def directivesOf? (text : String) : Option (List Directive) :=
  ((text.splitOn ",").filter fun part => !part.isEmpty).mapM fun part =>
    Directive.ofText? part.toList

/-- The filter of a text. -/
def ofText (text : String) : LogFilter :=
  match directivesOf? text with
  | some ds => ofDirectives ds
  | none => ofLevel .info

/-! ## Writing -/

/-- A real number as a filter shows it: its shortest digits, those of the greater of two
equally near decimals, without an exponent, and without a fraction of zero. -/
def shownReal (x : Numeric.Binary64) : String :=
  let digits := (Numeric.Layout.mk (-400) 400).write (x.shortest .upward)
  let digits :=
    match digits.reverse with
    | '0' :: '.' :: rest => rest.reverse
    | _ => digits
  String.ofList ((if x.negative then ['-'] else []) ++ digits)

def FieldValue.shown : FieldValue → String
  | .bool b => if b then "true" else "false"
  | .real (.finite x) => shownReal x
  | .real (.infinite negative) => if negative then "-inf" else "inf"
  | .real .notANumber => "NaN"
  | .word n => String.ofList (Numeric.intText n)
  | .signed i => String.ofList (Numeric.intText i)
  | .pattern text => text

def Field.write (f : Field) : String :=
  match f.value with
  | none => f.name
  | some value => f.name ++ "=" ++ value.shown

def Directive.write (d : Directive) : String :=
  let target := d.target.getD ""
  let fields :=
    if d.fields.isEmpty then ""
    else "\x7b" ++ String.intercalate "," (d.fields.map Field.write) ++ "\x7d"
  let scope := if d.isDynamic then "[" ++ d.span.getD "" ++ fields ++ "]" else ""
  let mark := if d.target.isSome || d.isDynamic then "=" else ""
  target ++ scope ++ mark ++ d.level.name

def write (f : LogFilter) : String :=
  String.intercalate "," ((f.fixed ++ f.dynamic).map Directive.write)

end LogFilter

end Backchannel
