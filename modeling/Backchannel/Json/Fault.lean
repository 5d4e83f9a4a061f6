/-
# Backchannel.Json.Fault -- why a text or a value cannot be read

A text may break the rules of the data format (`Malformed`); a text or a value
that keeps them may still not have the shape that is asked for (`Mismatch`).  A
`Fault` is one of the two at a `Spot` of a text.  Spots hold the text that was
left when reading stopped, so a reader needs no counter; `Spot.place` turns one
into a line and a column of the whole text.

A column counts the bytes read on its line, so it is zero right after a line
feed.
-/
import Backchannel.Json.Printer
import Backchannel.Text.Quoted
import Backchannel.Text.Utf8

namespace Backchannel.Json

set_option autoImplicit false

open Backchannel.Text (quoted)
open Backchannel.Text.Utf8 (byteCount)

/-- How a text breaks the rules of the format. -/
inductive Malformed where
  | endInList
  | endInObject
  | endInText
  | endInValue
  | colonExpected
  | listCommaExpected
  | objectCommaExpected
  | wordExpected
  | valueExpected
  | escapeInvalid
  | numberInvalid
  | numberOutOfRange
  | controlCharacter
  | keyNotText
  | surrogateAlone
  | trailingComma
  | trailingCharacters
  | escapeUnfinished
  | tooDeep
  deriving DecidableEq, Repr

def Malformed.message : Malformed → String
  | .endInList => "EOF while parsing a list"
  | .endInObject => "EOF while parsing an object"
  | .endInText => "EOF while parsing a string"
  | .endInValue => "EOF while parsing a value"
  | .colonExpected => "expected `:`"
  | .listCommaExpected => "expected `,` or `]`"
  | .objectCommaExpected => "expected `,` or `\x7d`"
  | .wordExpected => "expected ident"
  | .valueExpected => "expected value"
  | .escapeInvalid => "invalid escape"
  | .numberInvalid => "invalid number"
  | .numberOutOfRange => "number out of range"
  | .controlCharacter =>
    "control character (\\u0000-\\u001F) found while parsing a string"
  | .keyNotText => "key must be a string"
  | .surrogateAlone => "lone leading surrogate in hex escape"
  | .trailingComma => "trailing comma"
  | .trailingCharacters => "trailing characters"
  | .escapeUnfinished => "unexpected end of hex escape"
  | .tooDeep => "recursion limit exceeded"

/-- What was found where something else was expected. -/
inductive Found where
  | null
  | bool (value : Bool)
  | number (value : Number)
  | text (value : String)
  | list
  | object
  deriving DecidableEq

def Found.describe : Found → String
  | .null => "null"
  | .bool b => s!"boolean `{b}`"
  | .number (.whole i h) => s!"integer `{String.ofList (Number.whole i h).chars}`"
  | .number (.real x) => s!"floating point `{String.ofList (realText x)}`"
  | .text s => "string " ++ quoted s
  | .list => "sequence"
  | .object => "map"

/-- What a value is, without what it contains. -/
def Value.found : Value → Found
  | .null => .null
  | .bool b => .bool b
  | .number n => .number n
  | .text s => .text s
  | .list _ => .list
  | .object _ => .object

/-- How well-formed data misses the shape that is asked for. -/
inductive Mismatch where
  | wrongType (found : Found) (expected : String)
  | wrongValue (found : Found) (expected : String)
  | wrongLength (count : Nat) (expected : String)
  | unknownName (name : String) (known : List String)
  | missingField (name : String)
  | repeatedField (name : String)
  deriving DecidableEq

/-- The names that would have been known. -/
def expectedNames : List String → String
  | [] => "there are no variants"
  | [a] => s!"expected `{a}`"
  | [a, b] => s!"expected `{a}` or `{b}`"
  | names => "expected one of " ++ ", ".intercalate (names.map fun n => s!"`{n}`")

def Mismatch.message : Mismatch → String
  | .wrongType found expected => s!"invalid type: {found.describe}, expected {expected}"
  | .wrongValue found expected => s!"invalid value: {found.describe}, expected {expected}"
  | .wrongLength count expected => s!"invalid length {count}, expected {expected}"
  | .unknownName name known => s!"unknown variant `{name}`, " ++ expectedNames known
  | .missingField name => s!"missing field `{name}`"
  | .repeatedField name => s!"duplicate field `{name}`"

inductive Cause where
  | malformed (how : Malformed)
  | mismatch (how : Mismatch)
  deriving DecidableEq

def Cause.message : Cause → String
  | .malformed how => how.message
  | .mismatch how => how.message

/-- A spot of a text: what is left of it, and how many bytes of that count as
read already. -/
structure Spot where
  left : List Char
  past : Nat
  deriving DecidableEq, Repr

namespace Spot

/-- Before everything that is left. -/
def before (left : List Char) : Spot := ⟨left, 0⟩

/-- Behind the first byte of what is left, if there is one. -/
def behind : List Char → Spot
  | [] => ⟨[], 0⟩
  | left => ⟨left, 1⟩

end Spot

/-- A line, counted from one, and the bytes read on it. -/
structure Place where
  line : Nat
  column : Nat
  deriving DecidableEq, Repr

/-- The place after `bytes` more bytes of the text, from a given place. -/
def placeAfter : List Char → Nat → Place → Place
  | [], _, p => p
  | c :: cs, bytes, p =>
    if bytes = 0 then p
    else if c = '\n' then placeAfter cs (bytes - 1) ⟨p.line + 1, 0⟩
    else if bytes < c.utf8Size then ⟨p.line, p.column + bytes⟩
    else placeAfter cs (bytes - c.utf8Size) ⟨p.line, p.column + c.utf8Size⟩

/-- The place of a spot in the whole text that it belongs to. -/
def Spot.place (whole : List Char) (spot : Spot) : Place :=
  placeAfter whole (byteCount whole - byteCount spot.left + spot.past) ⟨1, 0⟩

/-- A cause and the spot where reading stopped. -/
structure Fault where
  cause : Cause
  spot : Spot
  deriving DecidableEq

/-- A fault told of the whole text: its cause and its place. -/
structure TextError where
  cause : Cause
  place : Place
  deriving DecidableEq

def Fault.inText (whole : List Char) (fault : Fault) : TextError :=
  ⟨fault.cause, fault.spot.place whole⟩

def TextError.message (e : TextError) : String :=
  s!"{e.cause.message} at line {e.place.line} column {e.place.column}"

end Backchannel.Json
