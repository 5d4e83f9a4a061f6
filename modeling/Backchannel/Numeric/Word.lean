/-
# Backchannel.Numeric.Word -- words of a fixed width
-/

namespace Backchannel.Numeric

set_option autoImplicit false

/-- How many values a word of that many bits has. -/
def wordValues (bits : Nat) : Nat := Nat.pow 2 bits

end Backchannel.Numeric
