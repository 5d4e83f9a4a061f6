/-
# Backchannel.Json.Value -- JSON values

A value of the data format that frames are written in.  Whole numbers are exact
as far as a signed or an unsigned 64-bit word reaches (`Number.whole` carries the
proof); every other number is a finite binary64 number.

An object is the list of its members in the order of their keys, each key once.
`Members.insert` keeps that order and replaces an earlier member of the same
key; `Value.Ordered` states it for a whole value.
-/
import Backchannel.Numeric.Binary64
import Backchannel.Numeric.Word

namespace Backchannel.Json

set_option autoImplicit false

open Backchannel.Numeric (Binary64)

/-- A whole number that a signed or an unsigned 64-bit word holds. -/
abbrev FitsWord (i : Int) : Prop :=
  -9223372036854775808 ≤ i ∧ i < 18446744073709551616

inductive Number where
  | whole (value : Int) (fits : FitsWord value)
  | real (value : Binary64)
  deriving DecidableEq

/-- A whole number, exact as far as a 64-bit word reaches. -/
def Number.ofInt (i : Int) : Number :=
  if h : FitsWord i then .whole i h else .real (Binary64.ofInt i)

inductive Value where
  | null
  | bool (value : Bool)
  | number (value : Number)
  | text (value : String)
  | list (items : List Value)
  | object (members : List (String × Value))

/-- The members of an object. -/
abbrev Members := List (String × Value)

namespace Members

/-- Adds a member at the place of its key, in place of an earlier one. -/
def insert (key : String) (value : Value) : Members → Members
  | [] => [(key, value)]
  | (k, v) :: rest =>
    if key < k then (key, value) :: (k, v) :: rest
    else if key = k then (key, value) :: rest
    else (k, v) :: insert key value rest

def get? (key : String) : Members → Option Value
  | [] => none
  | (k, v) :: rest => if k = key then some v else get? key rest

/-- The members in the order of their keys; of members of one key the last. -/
def ofList (entries : List (String × Value)) : Members :=
  entries.foldl (fun members entry => insert entry.1 entry.2 members) []

end Members

namespace Value

/-- An object of the given members, in whatever order they come. -/
def ofMembers (entries : List (String × Value)) : Value :=
  .object (Members.ofList entries)

def ofInt (i : Int) : Value := .number (.ofInt i)

def ofNat (n : Nat) : Value := .ofInt n

def ofReal (x : Binary64) : Value := .number (.real x)

def ofOption {α : Type} (encode : α → Value) : Option α → Value
  | none => .null
  | some a => encode a

/-- The member of that key, if the value is an object that has one. -/
def member? (key : String) : Value → Option Value
  | .object members => Members.get? key members
  | _ => none

def text? : Value → Option String
  | .text s => some s
  | _ => none

mutual

/-- How many containers stand inside one another. -/
def depth : Value → Nat
  | .list items => depthItems items + 1
  | .object members => depthMembers members + 1
  | _ => 0

def depthItems : List Value → Nat
  | [] => 0
  | v :: rest => max v.depth (depthItems rest)

def depthMembers : List (String × Value) → Nat
  | [] => 0
  | (_, v) :: rest => max v.depth (depthMembers rest)

end

mutual

/-- In every object of the value the keys increase strictly. -/
def Ordered : Value → Prop
  | .list items => OrderedItems items
  | .object members => (members.map Prod.fst).Pairwise (· < ·) ∧ OrderedMembers members
  | _ => True

def OrderedItems : List Value → Prop
  | [] => True
  | v :: rest => v.Ordered ∧ OrderedItems rest

def OrderedMembers : List (String × Value) → Prop
  | [] => True
  | (_, v) :: rest => v.Ordered ∧ OrderedMembers rest

end

mutual

def beq : Value → Value → Bool
  | .null, .null => true
  | .bool a, .bool b => a == b
  | .number a, .number b => a == b
  | .text a, .text b => a == b
  | .list as, .list bs => beqItems as bs
  | .object as, .object bs => beqMembers as bs
  | _, _ => false

def beqItems : List Value → List Value → Bool
  | [], [] => true
  | a :: as, b :: bs => beq a b && beqItems as bs
  | _, _ => false

def beqMembers : List (String × Value) → List (String × Value) → Bool
  | [], [] => true
  | (k, a) :: as, (l, b) :: bs => k == l && beq a b && beqMembers as bs
  | _, _ => false

end

mutual

theorem eq_of_beq : ∀ a b : Value, beq a b = true → a = b
  | .null, b, h => by cases b <;> simp_all [beq]
  | .bool _, b, h => by cases b <;> simp_all [beq]
  | .number _, b, h => by cases b <;> simp_all [beq]
  | .text _, b, h => by cases b <;> simp_all [beq]
  | .list as, b, h => by
    cases b <;> simp only [beq] at h <;> first | exact absurd h Bool.false_ne_true | skip
    exact congrArg _ (eq_of_beqItems as _ h)
  | .object as, b, h => by
    cases b <;> simp only [beq] at h <;> first | exact absurd h Bool.false_ne_true | skip
    exact congrArg _ (eq_of_beqMembers as _ h)

theorem eq_of_beqItems : ∀ as bs : List Value, beqItems as bs = true → as = bs
  | [], bs, h => by cases bs <;> simp_all [beqItems]
  | a :: as, bs, h => by
    cases bs with
    | nil => simp [beqItems] at h
    | cons b bs =>
      simp only [beqItems, Bool.and_eq_true] at h
      rw [eq_of_beq a b h.1, eq_of_beqItems as bs h.2]

theorem eq_of_beqMembers : ∀ as bs : List (String × Value), beqMembers as bs = true → as = bs
  | [], bs, h => by cases bs <;> simp_all [beqMembers]
  | (k, a) :: as, bs, h => by
    cases bs with
    | nil => simp [beqMembers] at h
    | cons b bs =>
      obtain ⟨l, b⟩ := b
      simp only [beqMembers, Bool.and_eq_true, beq_iff_eq] at h
      rw [h.1.1, eq_of_beq a b h.1.2, eq_of_beqMembers as bs h.2]

end

mutual

theorem beq_refl : ∀ a : Value, beq a a = true
  | .null | .bool _ | .number _ | .text _ => by simp [beq]
  | .list as => by simp only [beq]; exact beqItems_refl as
  | .object as => by simp only [beq]; exact beqMembers_refl as

theorem beqItems_refl : ∀ as : List Value, beqItems as as = true
  | [] => rfl
  | a :: as => by simp [beqItems, beq_refl a, beqItems_refl as]

theorem beqMembers_refl : ∀ as : List (String × Value), beqMembers as as = true
  | [] => rfl
  | (_, a) :: as => by simp [beqMembers, beq_refl a, beqMembers_refl as]

end

instance : DecidableEq Value := fun a b =>
  decidable_of_iff (beq a b = true) ⟨eq_of_beq a b, fun h => h ▸ beq_refl a⟩

instance : Inhabited Value := ⟨.null⟩

end Value

end Backchannel.Json
