/-
# Backchannel.Numeric.Literal -- numbers in settings

Settings write whole numbers in decimal digits, with an optional plus sign and any
number of leading zeros.  They write real numbers with an optional fraction and
exponent, and may name infinity and the number that is none.

A real literal is read as the binary64 number nearest to it.
-/
import Backchannel.Numeric.Binary64
import Backchannel.Numeric.Word

namespace Backchannel.Numeric

set_option autoImplicit false

/-! ## Whole numbers -/

/-- Why a text is no whole number of the wanted range. -/
inductive WholeFault where
  | notDigit
  | tooLarge
  deriving DecidableEq, Repr

def WholeFault.message : WholeFault → String
  | .notDigit => "invalid digit found in string"
  | .tooLarge => "number too large to fit in target type"

def digit? (c : Char) : Option Nat :=
  if c.isDigit then some (c.toNat - '0'.toNat) else none

/-- Takes digits behind those that make up `sofar`.  The first fault counts. -/
def wholeOfDigits (bound sofar : Nat) : List Char → Except WholeFault Nat
  | [] => .ok sofar
  | c :: rest =>
    match digit? c with
    | none => .error .notDigit
    | some d =>
      let n := 10 * sofar + d
      if n < bound then wholeOfDigits bound n rest else .error .tooLarge

/-- The whole number below `bound` that a text writes. -/
def readWhole (bound : Nat) (text : String) : Except WholeFault Nat :=
  let digits :=
    match text.toList with
    | '+' :: rest => rest
    | cs => cs
  if digits.isEmpty then .error .notDigit else wholeOfDigits bound 0 digits

/-! ## Real numbers -/

/-- What a real literal stands for. -/
inductive Extended where
  | finite (x : Binary64)
  | infinite (negative : Bool)
  | notANumber
  deriving DecidableEq

/-- A decimal without its sign: `digits` as a whole number, times ten to the
`exponent`. -/
structure DecimalLiteral where
  digits : Nat
  exponent : Int
  deriving DecidableEq, Repr

def natOfDigits (cs : List Char) : Nat :=
  cs.foldl (fun n c => 10 * n + (c.toNat - '0'.toNat)) 0

/-- The exponent after its mark. -/
def readExponent : List Char → Option Int
  | '+' :: rest => natural rest
  | '-' :: rest => (natural rest).map fun n => -n
  | rest => natural rest
where
  natural (cs : List Char) : Option Int :=
    if cs.isEmpty || !cs.all Char.isDigit then none else some (natOfDigits cs)

/-- Digits with an optional point among them, and an optional exponent.  There is at
least one digit. -/
def readDecimal (cs : List Char) : Option DecimalLiteral :=
  let whole := cs.takeWhile Char.isDigit
  let (fraction, rest) :=
    match cs.dropWhile Char.isDigit with
    | '.' :: rest => (rest.takeWhile Char.isDigit, rest.dropWhile Char.isDigit)
    | rest => ([], rest)
  let build (exponent : Int) : DecimalLiteral :=
    ⟨natOfDigits (whole ++ fraction), exponent - fraction.length⟩
  if whole.isEmpty && fraction.isEmpty then none
  else
    match rest with
    | [] => some (build 0)
    | mark :: rest =>
      if mark = 'e' ∨ mark = 'E' then (readExponent rest).map build else none

/-- The decimal exponents beyond which a literal is infinite or zero, whatever its
first digit. -/
def exponentLimit : Int := 400

/-- The number nearest to a decimal literal. -/
def DecimalLiteral.nearest (negative : Bool) (d : DecimalLiteral) : Extended :=
  let size : Int := (Nat.toDigits 10 d.digits).length + d.exponent
  let zero : Extended := .finite { Binary64.zero with negative := negative }
  if d.digits = 0 ∨ size < -exponentLimit then zero
  else if exponentLimit < size then .infinite negative
  else
    match Binary64.ofFraction negative (d.digits * Nat.pow 10 d.exponent.toNat)
        (Nat.pow 10 (-d.exponent).toNat) with
    | some x => .finite x
    | none => .infinite negative

/-- The literal after its sign. -/
def readUnsigned (negative : Bool) (cs : List Char) : Option Extended :=
  match String.ofList (cs.map Char.toLower) with
  | "inf" | "infinity" => some (.infinite negative)
  | "nan" => some .notANumber
  | _ => (readDecimal cs).map (·.nearest negative)

/-- The real number that a text writes. -/
def readReal (text : String) : Option Extended :=
  match text.toList with
  | '+' :: rest => readUnsigned false rest
  | '-' :: rest => readUnsigned true rest
  | cs => readUnsigned false cs

end Backchannel.Numeric
