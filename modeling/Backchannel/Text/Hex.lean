/-
# Backchannel.Text.Hex -- bytes as hexadecimal digits

Two digits a byte, the high half first.  Digits are written in lower case and
read in either.  A text of digits is judged by its bytes: their number has to be
even, and the first one that is no digit is reported with its index, shown as the
character of that code.
-/
import Backchannel.Text.Quoted
import Backchannel.Text.Utf8

namespace Backchannel.Text.Hex

set_option autoImplicit false

open Backchannel.Text.Utf8 (Bytes bytesOf)

inductive Failure where
  | oddLength
  | notDigit (byte : UInt8) (index : Nat)
  deriving DecidableEq, Repr

def Failure.message : Failure → String
  | .oddLength => "Odd number of digits"
  | .notDigit byte index =>
    s!"Invalid character {quotedChar (Char.ofNat byte.toNat)} at position {index}"

def digit (n : Nat) : Char := Nat.digitChar n

/-- The digits of some bytes. -/
def encodeChars (bytes : Bytes) : List Char :=
  bytes.flatMap fun b => [digit (b.toNat / 16), digit (b.toNat % 16)]

def encode (bytes : Bytes) : String := String.ofList (encodeChars bytes)

/-- The value of a digit, given as its byte. -/
def digitValue? (b : UInt8) : Option Nat :=
  if 48 ≤ b.toNat ∧ b.toNat ≤ 57 then some (b.toNat - 48)
  else if 97 ≤ b.toNat ∧ b.toNat ≤ 102 then some (b.toNat - 87)
  else if 65 ≤ b.toNat ∧ b.toNat ≤ 70 then some (b.toNat - 55)
  else none

/-- Reads pairs of digits, the first at `index`. -/
def decodePairs : Nat → Bytes → Except Failure Bytes
  | index, a :: b :: rest =>
    match digitValue? a, digitValue? b with
    | some high, some low => do
      let bytes ← decodePairs (index + 2) rest
      return UInt8.ofNat (high * 16 + low) :: bytes
    | none, _ => .error (.notDigit a index)
    | some _, none => .error (.notDigit b (index + 1))
  | _, _ => .ok []

/-- The bytes that a text of digits stands for. -/
def decode (s : String) : Except Failure Bytes :=
  let bytes := bytesOf s
  if bytes.length % 2 = 1 then .error .oddLength else decodePairs 0 bytes

end Backchannel.Text.Hex
