/-
# Backchannel.Numeric.Layout -- writing a decimal

How the digits of a number are laid out is a matter of the format that carries
it, so it is a value: `Layout` says for which sizes the point is written in its
place and from where on an exponent is used.
-/
import Backchannel.Numeric.Shortest

namespace Backchannel.Numeric

set_option autoImplicit false

/-- The sizes written with the point in place: those whose leading digit stands
at a power of ten from `positionalFrom` on and below `positionalBelow`. -/
structure Layout where
  positionalFrom : Int
  positionalBelow : Int

/-- The digits of a whole number, most significant first. -/
def digitsOf (n : Nat) : List Char := Nat.toDigits 10 n

def intText (i : Int) : List Char :=
  if i < 0 then '-' :: digitsOf i.natAbs else digitsOf i.natAbs

/-- The exponent with its sign always written. -/
def exponentText (e : Int) : List Char :=
  (if e < 0 then '-' else '+') :: digitsOf e.natAbs

/-- A decimal in a layout: a whole value keeps one zero behind the point, and an
exponent follows one leading digit. -/
def Layout.write (l : Layout) (d : Decimal) : List Char :=
  let ds := digitsOf d.digits
  let lead : Int := d.exponent + ds.length - 1
  if l.positionalFrom ≤ lead ∧ lead < l.positionalBelow then
    if 0 ≤ d.exponent then ds ++ List.replicate d.exponent.toNat '0' ++ ['.', '0']
    else if 0 ≤ lead then ds.take (lead + 1).toNat ++ '.' :: ds.drop (lead + 1).toNat
    else '0' :: '.' :: List.replicate (-lead - 1).toNat '0' ++ ds
  else
    let fraction := ds.drop 1
    ds.take 1 ++ (if fraction.isEmpty then [] else '.' :: fraction) ++ 'e' :: exponentText lead

end Backchannel.Numeric
