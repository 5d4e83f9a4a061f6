/-
# Backchannel.Numeric.Binary64 -- finite binary64 numbers

A finite binary64 number is a sign and a *rank*: its place among the
non-negative finite numbers in increasing order, zero having rank zero.  The
rank is the exponent and fraction fields read as one number, so the type holds
no infinity and no NaN, equality is equality of numbers (but for the two
zeros), and the order of magnitudes is the order of ranks.

Arithmetic goes through exact fractions: `ofFraction` rounds a fraction to the
nearest number, a tie to the even rank, and answers `none` where rounding leaves
the finite numbers.  Products and quotients are the exact ones, rounded once.
-/

namespace Backchannel.Numeric

set_option autoImplicit false

/-- How many numbers share one exponent: a fraction has 52 bits. -/
def fractions : Nat := 4503599627370496

/-- Ranks below this one are finite. -/
def rankBound : Nat := 2047 * fractions

/-- A finite binary64 number. -/
structure Binary64 where
  negative : Bool
  rank : Nat
  finite : rank < rankBound
  deriving DecidableEq

/-- The quotient rounded to the nearest whole number, a tie to the even one. -/
def roundDiv (num den : Nat) : Nat :=
  let q := num / den
  let r := num % den
  if 2 * r < den then q
  else if 2 * r > den then q + 1
  else q + q % 2

/-- The whole-number part of the binary logarithm of a positive fraction. -/
def log2Fraction (num den : Nat) : Int :=
  let guess : Int := (num.log2 : Int) - (den.log2 : Int)
  let reaches : Bool := decide (den * Nat.pow 2 guess.toNat ≤ num * Nat.pow 2 (-guess).toNat)
  if reaches then guess else guess - 1

/-- The rank nearest to a fraction, whether or not it is finite. -/
def rankOfFraction (num den : Nat) : Nat :=
  if num = 0 then 0
  else
    let e : Int := max (-1074) (log2Fraction num den - 52)
    let q := roundDiv (num * Nat.pow 2 (-e).toNat) (den * Nat.pow 2 e.toNat)
    (e + 1074).toNat * fractions + q

namespace Binary64

def zero : Binary64 := ⟨false, 0, by decide⟩

def isZero (x : Binary64) : Bool := x.rank == 0

def neg (x : Binary64) : Binary64 := { x with negative := !x.negative }

/-- Mantissa and exponent: the magnitude is `mantissa * 2 ^ exponent`. -/
def mantissa (x : Binary64) : Nat :=
  if x.rank < fractions then x.rank else fractions + x.rank % fractions

def exponent (x : Binary64) : Int :=
  if x.rank < fractions then -1074 else (x.rank / fractions : Nat) - 1075

/-- Numerator of the magnitude as an exact fraction. -/
def num (x : Binary64) : Nat := x.mantissa * Nat.pow 2 x.exponent.toNat

/-- Denominator of the magnitude as an exact fraction. -/
def den (x : Binary64) : Nat := Nat.pow 2 (-x.exponent).toNat

/-- The number nearest to a fraction, `none` beyond the finite ones. -/
def ofFraction (negative : Bool) (num den : Nat) : Option Binary64 :=
  let rank := rankOfFraction num den
  if h : rank < rankBound then some ⟨negative, rank, h⟩ else none

/-- The product, rounded once. -/
def mul (x y : Binary64) : Option Binary64 :=
  ofFraction (x.negative != y.negative) (x.num * y.num) (x.den * y.den)

/-- The quotient by a number other than zero, rounded once. -/
def div (x y : Binary64) : Option Binary64 :=
  ofFraction (x.negative != y.negative) (x.num * y.den) (x.den * y.num)

/-- The number nearest to a power of ten, `none` from the 309th on, which are
beyond the finite numbers. -/
def powerOfTen (k : Nat) : Option Binary64 :=
  if k ≤ 308 then ofFraction false (Nat.pow 10 k) 1 else none

/-- The number nearest to a whole number that fits a 64-bit word. -/
def ofNat (n : Nat) : Binary64 := (ofFraction false n 1).getD zero

/-- The number nearest to a whole number whose magnitude fits a 64-bit word. -/
def ofInt (i : Int) : Binary64 :=
  if i < 0 then (ofNat i.natAbs).neg else ofNat i.natAbs

end Binary64

end Backchannel.Numeric
