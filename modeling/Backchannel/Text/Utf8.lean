/-
# Backchannel.Text.Utf8 -- bytes as text

Characters are written in one to four bytes.  `step` takes one character off the
front of some bytes, or says how many bytes make up the longest beginning of a
character that cannot go on; `decode` reads all bytes or reports where and how
they fail, and `decodeLossy` puts U+FFFD in the place of each failing sequence.
-/

namespace Backchannel.Text.Utf8

set_option autoImplicit false

/-- Byte strings. -/
abbrev Bytes := List UInt8

/-- The bytes of a text. -/
def encode (cs : List Char) : Bytes := cs.flatMap String.utf8EncodeChar

/-- How many bytes some characters take. -/
def byteCount : List Char → Nat
  | [] => 0
  | c :: cs => c.utf8Size + byteCount cs

def bytesOf (s : String) : Bytes := encode s.toList

/-- What stands at the front of some bytes. -/
inductive Step where
  /-- A character, and what follows it. -/
  | char (c : Char) (rest : Bytes)
  /-- A sequence of `length` bytes that begins no character. -/
  | bad (length : Nat) (rest : Bytes)
  /-- The bytes end inside a character. -/
  | cut

def isBetween (lo hi b : UInt8) : Bool := lo ≤ b && b ≤ hi

def isTail (b : UInt8) : Bool := isBetween 0x80 0xBF b

/-- The low six bits of a tail byte. -/
def tailBits (b : UInt8) : Nat := b.toNat % 64

/-- The bytes that may follow a leading byte, and how many tails follow them:
none for a byte that leads nothing. -/
def second? (a : UInt8) : Option (UInt8 × UInt8 × Nat) :=
  if isBetween 0xC2 0xDF a then some (0x80, 0xBF, 0)
  else if a == 0xE0 then some (0xA0, 0xBF, 1)
  else if a == 0xED then some (0x80, 0x9F, 1)
  else if isBetween 0xE1 0xEF a then some (0x80, 0xBF, 1)
  else if a == 0xF0 then some (0x90, 0xBF, 2)
  else if isBetween 0xF1 0xF3 a then some (0x80, 0xBF, 2)
  else if a == 0xF4 then some (0x80, 0x8F, 2)
  else none

/-- The bits that a leading byte with that many tails behind its second byte
contributes. -/
def leadBits (a : UInt8) : Nat → Nat
  | 0 => a.toNat % 32
  | 1 => a.toNat % 16
  | _ => a.toNat % 8

/-- Takes `tails` more tail bytes into a code point of which `taken` bytes have
been read. -/
def stepTails (code taken : Nat) : Nat → Bytes → Step
  | 0, rest => .char (Char.ofNat code) rest
  | _ + 1, [] => .cut
  | tails + 1, b :: rest =>
    if isTail b then stepTails (code * 64 + tailBits b) (taken + 1) tails rest
    else .bad taken (b :: rest)

/-- Takes one character off the front, the first byte being `a`. -/
def step (a : UInt8) (rest : Bytes) : Step :=
  if a < 0x80 then .char (Char.ofNat a.toNat) rest
  else
    match second? a with
    | none => .bad 1 rest
    | some (lo, hi, tails) =>
      match rest with
      | [] => .cut
      | b :: rest =>
        if isBetween lo hi b then
          stepTails (leadBits a tails * 64 + tailBits b) 2 tails rest
        else .bad 1 (b :: rest)

/-- Where bytes fail to be text: after `index` bytes, by a sequence of `length`
bytes, or by ending inside a character. -/
structure Failure where
  index : Nat
  length : Option Nat
  deriving DecidableEq, Repr

def Failure.message (e : Failure) : String :=
  match e.length with
  | some n => s!"invalid utf-8 sequence of {n} bytes from index {e.index}"
  | none => s!"incomplete utf-8 byte sequence from index {e.index}"

/-- Reads characters; `done` holds those read, last first, `index` counts their
bytes, and `fuel` bounds how many bytes follow. -/
def decodeFrom : Nat → Nat → List Char → Bytes → Except Failure (List Char)
  | _, _, done, [] => .ok done.reverse
  | 0, _, done, _ :: _ => .ok done.reverse
  | fuel + 1, index, done, a :: rest =>
    match step a rest with
    | .char c rest => decodeFrom fuel (index + c.utf8Size) (c :: done) rest
    | .bad n _ => .error ⟨index, some n⟩
    | .cut => .error ⟨index, none⟩

/-- The characters that bytes encode. -/
def decode (bytes : Bytes) : Except Failure (List Char) :=
  decodeFrom bytes.length 0 [] bytes

def decodeLossyFrom : Nat → List Char → Bytes → List Char
  | _, done, [] => done.reverse
  | 0, done, _ :: _ => done.reverse
  | fuel + 1, done, a :: rest =>
    match step a rest with
    | .char c rest => decodeLossyFrom fuel (c :: done) rest
    | .bad _ rest => decodeLossyFrom fuel ('\ufffd' :: done) rest
    | .cut => ('\ufffd' :: done).reverse

/-- The characters that bytes encode, with U+FFFD for every sequence that
encodes none. -/
def decodeLossy (bytes : Bytes) : String :=
  String.ofList (decodeLossyFrom bytes.length [] bytes)

end Backchannel.Text.Utf8
