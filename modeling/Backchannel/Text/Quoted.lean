/-
# Backchannel.Text.Quoted -- text quoted for a reader

Texts that come from outside are shown in messages between quotes, with a
backslash before the quote and the backslash, the usual letters for tab, line
feed, carriage return and NUL, and the code point in hexadecimal for every other
character that would not be visible.
-/
import Backchannel.Text.Visible

namespace Backchannel.Text

set_option autoImplicit false

/-- The hexadecimal digits of a number, in lower case. -/
def hexDigits (n : Nat) : List Char := Nat.toDigits 16 n

/-- One character between marks of the kind `mark`. -/
def quoteChar (mark c : Char) : List Char :=
  if c = '\x00' then ['\\', '0']
  else if c = '\t' then ['\\', 't']
  else if c = '\r' then ['\\', 'r']
  else if c = '\n' then ['\\', 'n']
  else if c = '\\' || c = mark then ['\\', c]
  else if isVisible c then [c]
  else ['\\', 'u', '\x7b'] ++ hexDigits c.toNat ++ ['\x7d']

/-- A text between double quotes. -/
def quoted (s : String) : String :=
  String.ofList ('"' :: s.toList.flatMap (quoteChar '"') ++ ['"'])

/-- One character between single quotes. -/
def quotedChar (c : Char) : String :=
  String.ofList ('\'' :: quoteChar '\'' c ++ ['\''])

end Backchannel.Text
