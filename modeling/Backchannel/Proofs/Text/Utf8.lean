/-
# Backchannel.Proofs.Text.Utf8 -- what is encoded is decoded

A character is written in one to four bytes, and `step` takes exactly those off the front
again (`step_encode`): the leading byte tells how many tails there are, and its second byte
stands within the bounds that keep out what could be written shorter, surrogates and what is
beyond the characters.  So the bytes of a text are decoded as the text.
-/
import Backchannel.Text.Utf8

namespace Backchannel.Text.Utf8

set_option autoImplicit false

/-! ## Bytes as numbers -/

theorem isBetween_iff {lo hi b : UInt8} :
    isBetween lo hi b = true ↔ lo.toNat ≤ b.toNat ∧ b.toNat ≤ hi.toNat := by
  simp [isBetween, UInt8.le_iff_toNat_le]

theorem toNat_byte {n : Nat} (small : n < 256) : (UInt8.ofNat n).toNat = n := by
  simp [Nat.mod_eq_of_lt small]

theorem second?_eq (a : UInt8) : second? a =
    if 194 ≤ a.toNat ∧ a.toNat ≤ 223 then some (0x80, 0xBF, 0)
    else if a.toNat = 224 then some (0xA0, 0xBF, 1)
    else if a.toNat = 237 then some (0x80, 0x9F, 1)
    else if 225 ≤ a.toNat ∧ a.toNat ≤ 239 then some (0x80, 0xBF, 1)
    else if a.toNat = 240 then some (0x90, 0xBF, 2)
    else if 241 ≤ a.toNat ∧ a.toNat ≤ 243 then some (0x80, 0xBF, 2)
    else if a.toNat = 244 then some (0x80, 0x8F, 2)
    else none := by
  simp only [second?, isBetween_iff, beq_iff_eq, ← UInt8.toNat_inj]
  rfl

/-! ## The bytes of a character -/

/-- The byte that holds the six low bits of a number behind the leading one. -/
def tailByte (n : Nat) : UInt8 := UInt8.ofNat (n % 64 + 128)

theorem toNat_tailByte (n : Nat) : (tailByte n).toNat = n % 64 + 128 := toNat_byte (by omega)

theorem tailBits_tailByte (n : Nat) : tailBits (tailByte n) = n % 64 := by
  rw [tailBits, toNat_tailByte]
  omega

theorem stepTails_tailByte (code taken tails n : Nat) (rest : Bytes) :
    stepTails code taken (tails + 1) (tailByte n :: rest) =
      stepTails (code * 64 + n % 64) (taken + 1) tails rest := by
  have tail : isTail (tailByte n) = true := by
    refine isBetween_iff.mpr ?_
    rw [toNat_tailByte]
    change 128 ≤ _ ∧ _ ≤ 191
    omega
  rw [stepTails, if_pos tail, tailBits_tailByte]

/-- A leading byte and the second byte, which stands within its bounds. -/
theorem step_tailByte {a lo hi : UInt8} {tails n : Nat} (lead : 128 ≤ a.toNat)
    (second : second? a = some (lo, hi, tails)) (low : lo.toNat ≤ n % 64 + 128)
    (high : n % 64 + 128 ≤ hi.toNat) (rest : Bytes) :
    step a (tailByte n :: rest) = stepTails (leadBits a tails * 64 + n % 64) 2 tails rest := by
  have many : ¬ a < 0x80 := by
    rw [UInt8.lt_iff_toNat_lt]
    change ¬ a.toNat < 128
    omega
  have between : isBetween lo hi (tailByte n) = true :=
    isBetween_iff.mpr (by rw [toNat_tailByte]; exact ⟨low, high⟩)
  rw [step, if_neg many, second]
  simp only [between, if_true, tailBits_tailByte]

variable {v : Nat} {rest : Bytes}

theorem step_one (small : v ≤ 127) : step (UInt8.ofNat v) rest = .char (Char.ofNat v) rest := by
  have byte : (UInt8.ofNat v).toNat = v := toNat_byte (by omega)
  have single : UInt8.ofNat v < 0x80 := by
    rw [UInt8.lt_iff_toNat_lt, byte]
    change v < 128
    omega
  rw [step, if_pos single, byte]

theorem step_two (above : 127 < v) (small : v ≤ 2047) :
    step (UInt8.ofNat (v / 64 % 32 + 192)) (tailByte v :: rest) = .char (Char.ofNat v) rest := by
  have byte : (UInt8.ofNat (v / 64 % 32 + 192)).toNat = v / 64 % 32 + 192 :=
    toNat_byte (by omega)
  have second : second? (UInt8.ofNat (v / 64 % 32 + 192)) = some (0x80, 0xBF, 0) := by
    rw [second?_eq, byte, if_pos (by omega)]
  have code : (v / 64 % 32 + 192) % 32 * 64 + v % 64 = v := by omega
  rw [step_tailByte (by omega) second (Nat.le_add_left _ _) (by change _ ≤ 191; omega), leadBits,
    byte, code, stepTails]

/-- No surrogate, and nothing that could be written in two bytes. -/
theorem second?_three (above : 2047 < v) (small : v ≤ 65535) (valid : v < 0xD800 ∨ 0xDFFF < v) :
    ∃ lo hi, second? (UInt8.ofNat (v / 4096 % 16 + 224)) = some (lo, hi, 1) ∧
      lo.toNat ≤ v / 64 % 64 + 128 ∧ v / 64 % 64 + 128 ≤ hi.toNat := by
  have byte : (UInt8.ofNat (v / 4096 % 16 + 224)).toNat = v / 4096 % 16 + 224 :=
    toNat_byte (by omega)
  rw [second?_eq, byte, if_neg (by omega)]
  split
  · refine ⟨_, _, rfl, ?_⟩
    change 160 ≤ _ ∧ _ ≤ 191
    omega
  split
  · refine ⟨_, _, rfl, ?_⟩
    change 128 ≤ _ ∧ _ ≤ 159
    omega
  · refine ⟨_, _, if_pos (by omega), ?_⟩
    change 128 ≤ _ ∧ _ ≤ 191
    omega

theorem step_three (above : 2047 < v) (small : v ≤ 65535) (valid : v < 0xD800 ∨ 0xDFFF < v) :
    step (UInt8.ofNat (v / 4096 % 16 + 224)) (tailByte (v / 64) :: tailByte v :: rest) =
      .char (Char.ofNat v) rest := by
  have byte : (UInt8.ofNat (v / 4096 % 16 + 224)).toNat = v / 4096 % 16 + 224 :=
    toNat_byte (by omega)
  obtain ⟨lo, hi, second, low, high⟩ := second?_three above small valid
  have code : ((v / 4096 % 16 + 224) % 16 * 64 + v / 64 % 64) * 64 + v % 64 = v := by omega
  rw [step_tailByte (by omega) second low high, stepTails_tailByte, leadBits, byte, code,
    stepTails]

/-- No code beyond the characters, and nothing that could be written in three bytes. -/
theorem second?_four (above : 65535 < v) (valid : v < 0x110000) :
    ∃ lo hi, second? (UInt8.ofNat (v / 262144 % 8 + 240)) = some (lo, hi, 2) ∧
      lo.toNat ≤ v / 4096 % 64 + 128 ∧ v / 4096 % 64 + 128 ≤ hi.toNat := by
  have byte : (UInt8.ofNat (v / 262144 % 8 + 240)).toNat = v / 262144 % 8 + 240 :=
    toNat_byte (by omega)
  rw [second?_eq, byte, if_neg (by omega), if_neg (by omega), if_neg (by omega),
    if_neg (by omega)]
  split
  · refine ⟨_, _, rfl, ?_⟩
    change 144 ≤ _ ∧ _ ≤ 191
    omega
  split
  · refine ⟨_, _, rfl, ?_⟩
    change 128 ≤ _ ∧ _ ≤ 191
    omega
  · refine ⟨_, _, if_pos (by omega), ?_⟩
    change 128 ≤ _ ∧ _ ≤ 143
    omega

theorem step_four (above : 65535 < v) (valid : v < 0x110000) :
    step (UInt8.ofNat (v / 262144 % 8 + 240))
        (tailByte (v / 4096) :: tailByte (v / 64) :: tailByte v :: rest) =
      .char (Char.ofNat v) rest := by
  have byte : (UInt8.ofNat (v / 262144 % 8 + 240)).toNat = v / 262144 % 8 + 240 :=
    toNat_byte (by omega)
  obtain ⟨lo, hi, second, low, high⟩ := second?_four above valid
  have code : (((v / 262144 % 8 + 240) % 8 * 64 + v / 4096 % 64) * 64 + v / 64 % 64) * 64 +
      v % 64 = v := by omega
  rw [step_tailByte (by omega) second low high, stepTails_tailByte, stepTails_tailByte, leadBits,
    byte, code, stepTails]
  · exact Nat.noConfusion
  · exact fun impossible => by cases impossible

/-! ## Texts -/

/-- The bytes of a character are taken off as that character. -/
theorem step_encode (c : Char) (rest : Bytes) :
    ∃ a tail, String.utf8EncodeChar c = a :: tail ∧ step a (tail ++ rest) = .char c rest := by
  have valid : c.val.toNat < 0xD800 ∨ 0xDFFF < c.val.toNat ∧ c.val.toNat < 0x110000 := c.valid
  have own : Char.ofNat c.val.toNat = c := Char.ofNat_toNat c
  unfold String.utf8EncodeChar
  dsimp only
  generalize c.val.toNat = v at valid own ⊢
  subst own
  split
  · rename_i one
    exact ⟨_, _, rfl, step_one one⟩
  split
  · rename_i one two
    exact ⟨_, _, rfl, step_two (Nat.not_le.mp one) two⟩
  split
  · rename_i two three
    exact ⟨_, _, rfl, step_three (Nat.not_le.mp two) three (by omega)⟩
  · rename_i three
    exact ⟨_, _, rfl, step_four (Nat.not_le.mp three) (by omega)⟩

theorem decodeFrom_encode (cs done : List Char) {fuel index : Nat}
    (enough : (encode cs).length ≤ fuel) :
    decodeFrom fuel index done (encode cs) = .ok (done.reverse ++ cs) := by
  induction cs generalizing fuel index done with
  | nil => cases fuel <;> simp [encode, decodeFrom]
  | cons c cs ih =>
    obtain ⟨a, tail, bytes, taken⟩ := step_encode c (encode cs)
    have front : encode (c :: cs) = a :: (tail ++ encode cs) := by
      change String.utf8EncodeChar c ++ encode cs = _
      rw [bytes]
      rfl
    rw [front, List.length_cons, List.length_append] at enough
    obtain ⟨fuel, rfl⟩ : ∃ f, fuel = f + 1 := ⟨fuel - 1, by omega⟩
    rw [front, decodeFrom, taken]
    dsimp only
    rw [ih (c :: done) (by omega)]
    simp

/-- The bytes of a text are decoded as the text. -/
theorem decode_encode (cs : List Char) : decode (encode cs) = .ok cs :=
  decodeFrom_encode cs [] (Nat.le_refl _)

/-- What can be decoded is decoded without a loss. -/
theorem decodeLossyFrom_of_decodeFrom {fuel index : Nat} {done cs : List Char} {bytes : Bytes}
    (ok : decodeFrom fuel index done bytes = .ok cs) : decodeLossyFrom fuel done bytes = cs := by
  induction fuel generalizing index done bytes with
  | zero => cases bytes <;> exact Except.ok.inj ok
  | succ fuel ih =>
    cases bytes with
    | nil => exact Except.ok.inj ok
    | cons a rest =>
      rw [decodeFrom] at ok
      rw [decodeLossyFrom]
      split at ok
      · exact ih ok
      · cases ok
      · cases ok

theorem decodeLossy_bytesOf (s : String) : decodeLossy (bytesOf s) = s := by
  rw [decodeLossy, bytesOf, decodeLossyFrom_of_decodeFrom (decode_encode s.toList),
    String.ofList_toList]

end Backchannel.Text.Utf8
