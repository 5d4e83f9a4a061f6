/-
# Backchannel.Text.Blank -- which characters are blank

The blank characters are those with the Unicode property `White_Space`.  Values
read from an environment are trimmed of them on both sides, and a line that
holds nothing else carries no frame.
-/

namespace Backchannel.Text

set_option autoImplicit false

/-- The property `White_Space`, as inclusive ranges of code points. -/
def blankRanges : List (Nat × Nat) :=
  [(0x09, 0x0D), (0x20, 0x20), (0x85, 0x85), (0xA0, 0xA0), (0x1680, 0x1680),
   (0x2000, 0x200A), (0x2028, 0x2029), (0x202F, 0x202F), (0x205F, 0x205F), (0x3000, 0x3000)]

def isBlank (c : Char) : Bool :=
  blankRanges.any fun r => r.1 ≤ c.toNat && c.toNat ≤ r.2

/-- Removes the longest run of characters that satisfy `drop` from both ends. -/
def trimBoth (drop : Char → Bool) (cs : List Char) : List Char :=
  ((cs.dropWhile drop).reverse.dropWhile drop).reverse

/-- Removes the longest run of characters that satisfy `drop` from the end. -/
def trimRight (drop : Char → Bool) (cs : List Char) : List Char :=
  (cs.reverse.dropWhile drop).reverse

/-- The text without the blanks at its ends. -/
def trim (s : String) : String :=
  String.ofList (trimBoth isBlank s.toList)

end Backchannel.Text
