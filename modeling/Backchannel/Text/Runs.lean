/-
# Backchannel.Text.Runs -- tables of code points

Most properties of characters hold in stretches.  A set of code points is told by
the lengths of its gaps and stretches in turn; a property with values by rows of a
gap, a length and a value.  Such tables are written as texts of hexadecimal numbers.
-/
import Backchannel.Text.Hex

namespace Backchannel.Text

set_option autoImplicit false

/-- The numbers from a text on, with the digits of one already read. -/
def numbersFrom (begun : Option Nat) : List Char → List Nat
  | [] => begun.toList
  | c :: rest =>
    match Hex.digitValue? (UInt8.ofNat c.toNat) with
    | some d => numbersFrom (some (16 * begun.getD 0 + d)) rest
    | none => begun.toList ++ numbersFrom none rest

/-- The hexadecimal numbers of a text, which has blanks between them. -/
def hexNumbers (text : String) : List Nat := numbersFrom none text.toList

/-- The code point lies in a stretch.  `inside` tells what the first length is of. -/
def inTurns (inside : Bool) : List Nat → Nat → Bool
  | [], _ => inside
  | length :: rest, n => if n < length then inside else inTurns (!inside) rest (n - length)

/-- The value of a code point, zero in a gap. -/
def valueIn : List Nat → Nat → Nat
  | gap :: length :: value :: rest, n =>
    if n < gap then 0
    else if n - gap < length then value
    else valueIn rest (n - gap - length)
  | _, _ => 0

end Backchannel.Text
