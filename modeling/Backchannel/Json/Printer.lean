/-
# Backchannel.Json.Printer -- the compact text of a value

`Value.write v rest` is the text of `v` followed by `rest`, without any blank.
Only the quote, the backslash and the control characters are escaped.  Numbers
that are not whole are written with their shortest digits in `realLayout`.
-/
import Backchannel.Json.Value
import Backchannel.Numeric.Layout

namespace Backchannel.Json

set_option autoImplicit false

open Backchannel.Numeric

/-- The point stands in its place from 0.00001 on and below 10^16. -/
def realLayout : Layout := ⟨-5, 16⟩

def hexDigit (n : Nat) : Char := Nat.digitChar n

/-- A character inside the quotes of a text. -/
def escape (c : Char) : List Char :=
  if c = '"' then ['\\', '"']
  else if c = '\\' then ['\\', '\\']
  else if c = '\x08' then ['\\', 'b']
  else if c = '\x0c' then ['\\', 'f']
  else if c = '\n' then ['\\', 'n']
  else if c = '\r' then ['\\', 'r']
  else if c = '\t' then ['\\', 't']
  else if c.toNat < 0x20 then
    ['\\', 'u', '0', '0', hexDigit (c.toNat / 16), hexDigit (c.toNat % 16)]
  else [c]

/-- The characters of a text, escaped, and the closing quote, before `rest`. -/
def writeChars (cs rest : List Char) : List Char :=
  cs.foldr (fun c written => escape c ++ written) ('"' :: rest)

def writeText (s : String) (rest : List Char) : List Char :=
  '"' :: writeChars s.toList rest

/-- Of two equally near decimals the one with even digits is written. -/
def realText (x : Binary64) : List Char :=
  (if x.negative then ['-'] else []) ++ realLayout.write (x.shortest .toEven)

def Number.chars : Number → List Char
  | .whole i _ => intText i
  | .real x => realText x

namespace Value

mutual

/-- The text of a value, before `rest`. -/
def write : Value → List Char → List Char
  | .null, rest => 'n' :: 'u' :: 'l' :: 'l' :: rest
  | .bool true, rest => 't' :: 'r' :: 'u' :: 'e' :: rest
  | .bool false, rest => 'f' :: 'a' :: 'l' :: 's' :: 'e' :: rest
  | .number n, rest => n.chars ++ rest
  | .text s, rest => writeText s rest
  | .list [], rest => '[' :: ']' :: rest
  | .list (v :: vs), rest => '[' :: v.write (writeItems vs rest)
  | .object [], rest => '{' :: '}' :: rest
  | .object ((k, v) :: ms), rest =>
    '{' :: writeText k (':' :: v.write (writeMembers ms rest))

/-- The items after the first and the closing bracket, before `rest`. -/
def writeItems : List Value → List Char → List Char
  | [], rest => ']' :: rest
  | v :: vs, rest => ',' :: v.write (writeItems vs rest)

/-- The members after the first and the closing brace, before `rest`. -/
def writeMembers : List (String × Value) → List Char → List Char
  | [], rest => '}' :: rest
  | (k, v) :: ms, rest => ',' :: writeText k (':' :: v.write (writeMembers ms rest))

end

/-- The compact text of a value. -/
def render (v : Value) : String := String.ofList (v.write [])

end Value

/-- The text of an object whose members stand in the order given. -/
def renderInOrder (members : List (String × Value)) : String :=
  (Value.object members).render

end Backchannel.Json
