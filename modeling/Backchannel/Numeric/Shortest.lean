/-
# Backchannel.Numeric.Shortest -- the fewest digits that read back

`Binary64.shortest` gives the decimal digits by which a number is known: the
fewest for which some decimal of that length lies in the interval of reals that
round to the number, and of those the decimal nearest to it.  Where two are equally
near, the format that the digits are for decides (`Tie`).

For each length from one digit up, the two neighbours of the number on that
decimal grid are tested in exact arithmetic.  If any point of a grid lies in the
interval, so does one of these two, so the first length with a hit is the
shortest there is.  Seventeen digits always hit.
-/
import Backchannel.Numeric.Binary64

namespace Backchannel.Numeric

set_option autoImplicit false

/-- A decimal: `digits` read as a whole number, times ten to `exponent`. -/
structure Decimal where
  digits : Nat
  exponent : Int
  deriving DecidableEq, Repr

namespace Decimal

def num (d : Decimal) : Nat := d.digits * Nat.pow 10 d.exponent.toNat

def den (d : Decimal) : Nat := Nat.pow 10 (-d.exponent).toNat

/-- Drops the zeros at the end of the digits; `fuel` bounds how many. -/
def dropZeros : Nat → Decimal → Decimal
  | 0, d => d
  | fuel + 1, d =>
    if d.digits ≠ 0 ∧ d.digits % 10 = 0 then
      dropZeros fuel ⟨d.digits / 10, d.exponent + 1⟩
    else d

end Decimal

/-- The decimal rounds back to the number. -/
def readsBack (x : Binary64) (d : Decimal) : Bool :=
  rankOfFraction d.num d.den == x.rank

/-- The whole-number part of the decimal logarithm of a positive fraction,
found by counting down from an upper bound; `fuel` bounds the count. -/
def log10Fraction (num den : Nat) : Nat → Int → Int
  | 0, k => k
  | fuel + 1, k =>
    if den * Nat.pow 10 k.toNat ≤ num * Nat.pow 10 (-k).toNat then k
    else log10Fraction num den fuel (k - 1)

/-- Which of two decimals counts that are equally near. -/
inductive Tie where
  | toEven
  | upward
  deriving DecidableEq, Repr

/-- The nearer of two decimals to the number, the lower one first. -/
def nearer (tie : Tie) (x : Binary64) (lo hi : Decimal) : Decimal :=
  -- distances over the common denominator `x.den * lo.den`
  let value := x.num * lo.den
  let below := value - lo.num * x.den
  let above := hi.num * x.den - value
  if below < above then lo
  else if above < below then hi
  else if tie = .toEven ∧ lo.digits % 2 = 0 then lo else hi

/-- The two neighbours of the number among decimals of `count` digits, and the
one of them that reads back, if any. -/
def candidate? (tie : Tie) (x : Binary64) (top : Int) (count : Nat) : Option Decimal :=
  let e : Int := top - count + 1
  let floor := x.num * Nat.pow 10 (-e).toNat / (x.den * Nat.pow 10 e.toNat)
  let lo : Decimal := ⟨floor, e⟩
  let hi : Decimal := ⟨floor + 1, e⟩
  match readsBack x lo, readsBack x hi with
  | true, true => some (nearer tie x lo hi)
  | true, false => some lo
  | false, true => some hi
  | false, false => none

/-- The shortest decimal that reads back, without zeros at its end. -/
def Binary64.shortest (x : Binary64) (tie : Tie) : Decimal :=
  if x.isZero then ⟨0, 0⟩
  else
    let top := log10Fraction x.num x.den 700 310
    let found := (List.range 17).findSome? fun i => candidate? tie x top (i + 1)
    (found.getD ⟨x.num / x.den, 0⟩).dropZeros 20

end Backchannel.Numeric
