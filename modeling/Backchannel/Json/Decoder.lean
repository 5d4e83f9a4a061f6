/-
# Backchannel.Json.Decoder -- data of a given shape

A `Decoder` describes a shape once and reads it from both sources: straight from
text, where a fault has a spot, and from a value that was read before, where only
a mismatch is left to report.

A record (`Decoder.record`) is written as an object, whose unknown members are
passed over, or as a list of its fields in their order.  A field that is not
written takes its default; without one it is missing, unless its shape allows it
to be absent.  Only text can repeat a field, which is refused.  An enumeration
(`Decoder.oneOf`) is written as one of its names, or as an object whose only
member has that name and the value `null`.
-/
import Backchannel.Json.Skip

namespace Backchannel.Json

set_option autoImplicit false

open Backchannel.Numeric (Binary64)

/-- How to read an `α`.  `absent` is what a field of this shape becomes when an
object does not write it. -/
structure Decoder (α : Type) where
  ofText : Nat → List Char → Except Fault (α × List Char)
  ofValue : Value → Except Mismatch α
  absent : Option α := none

/-! ## Reading past what was not expected -/

/-- Reads the scalar that stands where something else was expected, or looks at
the bracket, and reports it. -/
def unexpected {α : Type} (expected : String) (s : List Char) : Except Fault α :=
  match skipBlank s with
  | [] => malformed .endInValue (.before [])
  | c :: rest =>
    match readScalar? c rest with
    | some (.ok (v, after)) => mismatched (.wrongType v.found expected) (.before after)
    | some (.error fault) => .error fault
    | none =>
      if c = '[' then mismatched (.wrongType .list expected) (.before (c :: rest))
      else if c = '{' then mismatched (.wrongType .object expected) (.before (c :: rest))
      else malformed .valueExpected (.behind (c :: rest))

/-- A mismatch of what was just read. -/
def settle {α : Type} (result : Except Mismatch α) (s : List Char) :
    Except Fault (α × List Char) :=
  match result with
  | .ok a => .ok (a, s)
  | .error how => mismatched how (.before s)

/-- Opens a container if there is room for it. -/
def openContainer (room : Nat) (s : List Char) : Except Fault Nat :=
  match room with
  | 0 => malformed .tooDeep (.behind s)
  | room + 1 => .ok room

/-- The spot behind a list that was left early: its closing bracket, or a comma
and what is blank after it, count as read. -/
def afterList (s : List Char) : Spot :=
  match skipBlank s with
  | ']' :: s => .before s
  | ',' :: s => .before (skipBlank s)
  | s => .before s

/-- The spot behind an object that was left early. -/
def afterObject (s : List Char) : Spot :=
  match skipBlank s with
  | '}' :: s => .before s
  | s => .before s

/-- Reads the closing bracket of a list whose items have all been read. -/
def closeList (s : List Char) : Except Fault (List Char) :=
  match skipBlank s with
  | [] => malformed .endInList (.before [])
  | ']' :: s => .ok s
  | ',' :: s =>
    match skipBlank s with
    | ']' :: s => malformed .trailingComma (.behind (']' :: s))
    | s => malformed .trailingCharacters (.behind s)
  | s => malformed .trailingCharacters (.behind s)

namespace Decoder

/-- The same shape, read as something else. -/
def map {α β : Type} (f : α → β) (d : Decoder α) : Decoder β where
  ofText room s := (d.ofText room s).map fun r => (f r.1, r.2)
  ofValue v := (d.ofValue v).map f
  absent := d.absent.map f

/-! ## Scalars -/

/-- Any value, as it is. -/
def value : Decoder Value where
  ofText := readValue
  ofValue v := .ok v

def text : Decoder String where
  ofText _ s :=
    match skipBlank s with
    | '"' :: s => readText s
    | s => unexpected "a string" s
  ofValue v :=
    match v with
    | .text t => .ok t
    | v => .error (.wrongType v.found "a string")

def bool : Decoder Bool where
  ofText _ s :=
    match skipBlank s with
    | 't' :: s => (readWord ['r', 'u', 'e'] s).map (true, ·)
    | 'f' :: s => (readWord ['a', 'l', 's', 'e'] s).map (false, ·)
    | s => unexpected "a boolean" s
  ofValue v :=
    match v with
    | .bool b => .ok b
    | v => .error (.wrongType v.found "a boolean")

/-- A number that `convert` accepts. -/
def number {α : Type} (expected : String) (convert : Number → Except Mismatch α) :
    Decoder α where
  ofText _ s :=
    match skipBlank s with
    | '-' :: s => do
      let (n, s) ← readNumber true s
      settle (convert n) s
    | c :: s =>
      if isDigit c then do
        let (n, s) ← readNumber false (c :: s)
        settle (convert n) s
      else unexpected expected (c :: s)
    | [] => unexpected expected []
  ofValue v :=
    match v with
    | .number n => convert n
    | v => .error (.wrongType v.found expected)

/-- A whole number from zero up to but not including `bound`. -/
def natBelow (bound : Nat) (expected : String) : Decoder Nat :=
  number expected fun n =>
    match n with
    | .whole i _ =>
      if 0 ≤ i ∧ i < bound then .ok i.toNat else .error (.wrongValue (.number n) expected)
    | .real _ => .error (.wrongType (.number n) expected)

def word32 : Decoder Nat := natBelow (Numeric.wordValues 32) "u32"

def word64 : Decoder Nat := natBelow (Numeric.wordValues 64) "u64"

/-- Any number, rounded to binary64. -/
def real : Decoder Binary64 :=
  number "f64" fun n =>
    match n with
    | .whole i _ => .ok (Binary64.ofInt i)
    | .real x => .ok x

/-- A value that may also be `null` or absent. -/
def optional {α : Type} (d : Decoder α) : Decoder (Option α) where
  ofText room s :=
    match skipBlank s with
    | 'n' :: s => (readWord ['u', 'l', 'l'] s).map (none, ·)
    | s => (d.ofText room s).map fun r => (some r.1, r.2)
  ofValue v :=
    match v with
    | .null => .ok none
    | v => (d.ofValue v).map some
  absent := some none

/-! ## Enumerations -/

/-- Reads the `null` that stands beside a name. -/
def unitOfText (s : List Char) : Except Fault (List Char) :=
  match skipBlank s with
  | 'n' :: s => readWord ['u', 'l', 'l'] s
  | s => unexpected "unit" s

def unitOfValue : Value → Except Mismatch Unit
  | .null => .ok ()
  | v => .error (.wrongType v.found "unit")

/-- One of the values that `names` names; any other name means `other`, where
there is one. -/
def oneOf {α : Type} (names : List (String × α)) (other : Option α := none) : Decoder α :=
  let resolve (name : String) : Except Mismatch α :=
    match (names.find? fun entry => entry.1 == name).map Prod.snd, other with
    | some a, _ => .ok a
    | none, some a => .ok a
    | none, none => .error (.unknownName name (names.map Prod.fst))
  { ofText := fun room s =>
      match skipBlank s with
      | [] => malformed .endInValue (.before [])
      | '"' :: s => do
        let (name, s) ← readText s
        settle (resolve name) s
      | '{' :: s => do
        let _ ← openContainer room ('{' :: s)
        let (more, s) ← nextKey true s
        if more then
          let (name, s) ← readText s
          let (a, s) ← settle (resolve name) s
          let s ← readColon s
          let s ← unitOfText s
          match skipBlank s with
          | [] => malformed .endInObject (.before [])
          | '}' :: s => .ok (a, s)
          | s => malformed .valueExpected (.before s)
        else malformed .valueExpected (.behind s)
      | s => malformed .valueExpected (.behind s)
    ofValue := fun v =>
      match v with
      | .text name => resolve name
      | .object [(name, content)] => do
        let a ← resolve name
        unitOfValue content
        return a
      | .object _ => .error (.wrongValue .object "map with a single key")
      | v => .error (.wrongType v.found "string or map") }

/-! ## Lists and tables -/

/-- Reads items up to the closing bracket of a list. -/
def itemsOfText {α : Type} (d : Decoder α) (room : Nat) :
    Nat → Bool → List Char → Except Fault (List α × List Char)
  | 0, _, _ => malformed .endInList (.before [])
  | fuel + 1, first, s => do
    let (more, s) ← nextItem first s
    if more then
      let (a, s) ← d.ofText room s
      let (as, s) ← itemsOfText d room fuel false s
      return (a :: as, s)
    else return ([], s.drop 1)

/-- A list of items of one shape. -/
def list {α : Type} (d : Decoder α) : Decoder (List α) where
  ofText room s :=
    match skipBlank s with
    | '[' :: s => do
      let room ← openContainer room ('[' :: s)
      itemsOfText d room (s.length + 1) true s
    | s => unexpected "a sequence" s
  ofValue v :=
    match v with
    | .list items => items.mapM d.ofValue
    | v => .error (.wrongType v.found "a sequence")

/-- The members of an object, whatever their keys. -/
def table : Decoder Members where
  ofText room s :=
    match skipBlank s with
    | '{' :: s => do
      let room ← openContainer room ('{' :: s)
      readMembers (2 * s.length + 2) room true [] s
    | s => unexpected "a map" s
  ofValue v :=
    match v with
    | .object members => .ok members
    | v => .error (.wrongType v.found "a map")

end Decoder

/-! ## Records -/

/-- The fields of a record in their order, with the shape and the default of
each.  `τ` holds one value of each field, `σ` what has been read of each so
far. -/
inductive Fields : Type → Type → Type 1 where
  | done : Fields Unit Unit
  | field {α τ σ : Type} (name : String) (shape : Decoder α) (default : Option α)
      (rest : Fields τ σ) : Fields (α × τ) (Option α × σ)

namespace Fields

/-- A field that has to be written, unless its shape allows it to be absent. -/
def required {α τ σ : Type} (name : String) (shape : Decoder α) (rest : Fields τ σ) :
    Fields (α × τ) (Option α × σ) := .field name shape none rest

/-- A field with a default. -/
def defaulted {α τ σ : Type} (name : String) (shape : Decoder α) (default : α)
    (rest : Fields τ σ) : Fields (α × τ) (Option α × σ) := .field name shape (some default) rest

/-- Nothing read yet. -/
def empty : {τ σ : Type} → Fields τ σ → σ
  | _, _, .done => ()
  | _, _, .field _ _ _ rest => (none, rest.empty)

def count : {τ σ : Type} → Fields τ σ → Nat
  | _, _, .done => 0
  | _, _, .field _ _ _ rest => rest.count + 1

/-- What a key of an object means for a record. -/
inductive Offer (ε ρ : Type) where
  /-- No field has that name. -/
  | unknown
  /-- The field of that name has been read before. -/
  | repeated
  /-- The field of that name was read: the new slots, or what went wrong. -/
  | known (result : Except ε ρ)

/-- Offers a key to the record: if it names a field that is still open, `read`
reads it. -/
def offer {ε ρ : Type} (key : String)
    (read : {α : Type} → Decoder α → Except ε (α × ρ)) :
    {τ σ : Type} → Fields τ σ → σ → Offer ε (σ × ρ)
  | _, _, .done, _ => .unknown
  | _, _, .field name shape _ rest, (slot, slots) =>
    if name = key then
      match slot with
      | some _ => .repeated
      | none => .known ((read shape).map fun r => ((some r.1, slots), r.2))
    else
      match offer key read rest slots with
      | .unknown => .unknown
      | .repeated => .repeated
      | .known result => .known (result.map fun r => ((slot, r.1), r.2))

/-- The fields at the end of an object: each as read, or its default, or absent
if its shape allows that. -/
def finish : {τ σ : Type} → Fields τ σ → σ → Except Mismatch τ
  | _, _, .done, _ => .ok ()
  | _, _, .field name shape default rest, (slot, slots) => do
    let a ←
      match slot, default, shape.absent with
      | some a, _, _ => .ok a
      | none, some a, _ => .ok a
      | none, none, some a => .ok a
      | none, none, none => .error (.missingField name)
    let b ← finish rest slots
    return (a, b)

/-- Reads the members of an object up to its closing brace, which is left. -/
def membersOfText {τ σ : Type} (fs : Fields τ σ) (room : Nat) :
    Nat → Bool → σ → List Char → Except Fault (τ × List Char)
  | 0, _, _, _ => malformed .endInObject (.before [])
  | fuel + 1, first, slots, s => do
    let (more, s) ← nextKey first s
    if more then
      let (key, s) ← readText s
      match fs.offer key (fun shape => do
          let s ← readColon s
          shape.ofText room s) slots with
      | .unknown =>
        let s ← readColon s
        let s ← skipValue s
        membersOfText fs room fuel false slots s
      | .repeated => mismatched (.repeatedField key) (afterObject s)
      | .known result =>
        let (slots, s) ← result
        membersOfText fs room fuel false slots s
    else
      match fs.finish slots with
      | .ok a => .ok (a, s)
      | .error how => mismatched how (afterObject s)

/-- Reads the fields of a record written as a list.  `index` counts those read
before, `expected` names the record. -/
def itemsOfText (expected : String) (room : Nat) : {τ σ : Type} → Fields τ σ → Nat → Bool →
    List Char → Except Fault (τ × List Char)
  | _, _, .done, _, _, s => .ok ((), s)
  | _, _, .field _ shape default rest, index, first, s => do
    let (more, s) ← nextItem first s
    if more then
      let (a, s) ← shape.ofText room s
      let (b, s) ← itemsOfText expected room rest (index + 1) false s
      return ((a, b), s)
    else
      match default with
      | some a =>
        let (b, s) ← itemsOfText expected room rest (index + 1) first s
        return ((a, b), s)
      | none => mismatched (.wrongLength index expected) (afterList s)

/-- Reads the members of an object that was read before. -/
def ofMembers {τ σ : Type} (fs : Fields τ σ) : Members → σ → Except Mismatch τ
  | [], slots => fs.finish slots
  | (key, v) :: rest, slots =>
    match fs.offer key (fun shape => (shape.ofValue v).map (·, ())) slots with
    | .unknown => fs.ofMembers rest slots
    | .repeated => .error (.repeatedField key)
    | .known (.ok (slots, ())) => fs.ofMembers rest slots
    | .known (.error how) => .error how

/-- Reads the fields of a record from a list that was read before: the record
and the items that are left over. -/
def ofItems (expected : String) : {τ σ : Type} → Fields τ σ → Nat → List Value →
    Except Mismatch (τ × List Value)
  | _, _, .done, _, items => .ok ((), items)
  | _, _, .field _ shape _ rest, index, v :: items => do
    let a ← shape.ofValue v
    let (b, items) ← ofItems expected rest (index + 1) items
    return ((a, b), items)
  | _, _, .field _ _ (some a) rest, index, [] => do
    let (b, items) ← ofItems expected rest (index + 1) []
    return ((a, b), items)
  | _, _, .field _ _ none _, index, [] => .error (.wrongLength index expected)

end Fields

/-- A record of the given fields.  Its name and the number of its fields stand in
messages. -/
def Decoder.record {τ σ α : Type} (name : String) (fs : Fields τ σ) (build : τ → α) :
    Decoder α :=
  let shape := "struct " ++ name
  let elements := if fs.count = 1 then "element" else "elements"
  let ofList := s!"{shape} with {fs.count} {elements}"
  { ofText := fun room s =>
      match skipBlank s with
      | '{' :: s => do
        let room ← openContainer room ('{' :: s)
        let (a, s) ← fs.membersOfText room (s.length + 1) true fs.empty s
        return (build a, s.drop 1)
      | '[' :: s => do
        let room ← openContainer room ('[' :: s)
        let (a, s) ← fs.itemsOfText ofList room 0 true s
        let s ← closeList s
        return (build a, s)
      | s => unexpected shape s
    ofValue := fun v =>
      match v with
      | .object members => (fs.ofMembers members fs.empty).map build
      | .list items => do
        let (a, left) ← fs.ofItems ofList 0 items
        if left.isEmpty then return build a
        else throw (.wrongLength items.length "fewer elements in array")
      | v => .error (.wrongType v.found shape) }

namespace Decoder

/-- Reads a whole text straight into the shape. -/
def parse {α : Type} (d : Decoder α) (s : String) : Except TextError α :=
  (readWhole (d.ofText nestingLimit) s.toList).mapError (Fault.inText s.toList)

end Decoder

end Backchannel.Json
