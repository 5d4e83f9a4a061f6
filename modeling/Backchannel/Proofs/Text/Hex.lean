/-
# Backchannel.Proofs.Text.Hex -- digits and the bytes they stand for

A text can be read as bytes exactly if it is made of an even number of digits (`decode_isOk`),
and the digits that are written for those bytes are the same but for their case
(`encode_decode`).  So bytes that were written are read again (`decode_encode`).

The reader looks at the bytes of a text and not at its characters.  That makes no difference:
a digit is one byte, and a character of more bytes begins with one that is no digit.
-/
import Backchannel.Proofs.Except
import Backchannel.Proofs.Text.Utf8
import Backchannel.Text.Hex

namespace Backchannel.Text.Hex

set_option autoImplicit false

open Backchannel.Text.Utf8 (Bytes bytesOf)

/-- The digits that are written. -/
def lowerDigits : List Char := "0123456789abcdef".toList

/-- The digits that are read. -/
def digits : List Char := lowerDigits ++ "ABCDEF".toList

/-! ## Single digits -/

theorem digit_lower : ∀ n < 16, digit n ∈ lowerDigits := by decide

-- The instance is named so that the list is gone through and not every character there is.
theorem toLower_lower : ∀ c ∈ lowerDigits, c.toLower = c :=
  @of_decide_eq_true _ (List.decidableBAll ..) (by decide)

theorem digit_injective : ∀ m < 16, ∀ n < 16, digit m = digit n → m = n := by decide

/-- A digit is one byte, whose value is written as the digit in lower case. -/
theorem digit_value : ∀ c ∈ digits, ∃ n < 16,
    String.utf8EncodeChar c = [UInt8.ofNat c.toNat] ∧
      digitValue? (UInt8.ofNat c.toNat) = some n ∧ digit n = c.toLower :=
  @of_decide_eq_true _ (List.decidableBAll ..) (by decide)

theorem mem_digits_of_value : ∀ v < 128, (digitValue? (UInt8.ofNat v)).isSome = true →
    Char.ofNat v ∈ digits := by
  decide

/-- A character of more than one byte begins with one that is no digit. -/
theorem mem_digits_of_bytes {c : Char}
    (all : ∀ b ∈ String.utf8EncodeChar c, (digitValue? b).isSome = true) : c ∈ digits := by
  have own : Char.ofNat c.val.toNat = c := Char.ofNat_toNat c
  have high {v : Nat} (lead : 192 ≤ v) (byte : v < 256) :
      ¬ (digitValue? (UInt8.ofNat v)).isSome = true := by
    have same := Utf8.toNat_byte byte
    simp only [digitValue?, same]
    rw [if_neg (by omega), if_neg (by omega), if_neg (by omega)]
    exact Bool.false_ne_true
  unfold String.utf8EncodeChar at all
  dsimp only at all
  generalize c.val.toNat = v at own all
  subst own
  split at all
  · exact mem_digits_of_value v (by omega) (all _ (.head _))
  split at all
  · exact absurd (all _ (.head _)) (high (by omega) (by omega))
  split at all
  · exact absurd (all _ (.head _)) (high (by omega) (by omega))
  · exact absurd (all _ (.head _)) (high (by omega) (by omega))

/-! ## Texts of digits -/

variable {cs : List Char} {index : Nat} {bytes : Bytes}

theorem encode_digits (all : ∀ c ∈ cs, c ∈ digits) :
    Utf8.encode cs = cs.map fun c => UInt8.ofNat c.toNat := by
  induction cs with
  | nil => rfl
  | cons c cs ih =>
    obtain ⟨n, -, one, -⟩ := digit_value c (all c (.head _))
    have rest := ih fun d among => all d (.tail _ among)
    change String.utf8EncodeChar c ++ Utf8.encode cs = _
    rw [one, rest]
    rfl

theorem mem_digits_of_encode (all : ∀ b ∈ Utf8.encode cs, (digitValue? b).isSome = true) :
    ∀ c ∈ cs, c ∈ digits := fun c among =>
  mem_digits_of_bytes fun b own => all b (List.mem_flatMap.mpr ⟨c, among, own⟩)

theorem encodeChars_cons (b : UInt8) (bytes : Bytes) :
    encodeChars (b :: bytes) =
      digit (b.toNat / 16) :: digit (b.toNat % 16) :: encodeChars bytes := rfl

theorem encodeChars_length (bytes : Bytes) : (encodeChars bytes).length = 2 * bytes.length := by
  induction bytes with
  | nil => rfl
  | cons b bytes ih => simp only [encodeChars_cons, List.length_cons, ih]; omega

/-- What is written is made of digits in lower case. -/
theorem encodeChars_lower (bytes : Bytes) : ∀ c ∈ encodeChars bytes, c ∈ lowerDigits := by
  induction bytes with
  | nil => exact fun c among => absurd among List.not_mem_nil
  | cons b bytes ih =>
    have small := b.toNat_lt
    rw [encodeChars_cons]
    simp only [List.mem_cons, forall_eq_or_imp]
    exact ⟨digit_lower _ (by omega), digit_lower _ (by omega), ih⟩

theorem encodeChars_injective {bytes bytes' : Bytes} (same : encodeChars bytes = encodeChars bytes') :
    bytes = bytes' := by
  induction bytes generalizing bytes' with
  | nil =>
    cases bytes' with
    | nil => rfl
    | cons b bytes' => cases same
  | cons b bytes ih =>
    cases bytes' with
    | nil => cases same
    | cons b' bytes' =>
      have small := b.toNat_lt
      have small' := b'.toNat_lt
      simp only [encodeChars_cons, List.cons.injEq] at same
      have high := digit_injective _ (by omega) _ (by omega) same.1
      have low := digit_injective _ (by omega) _ (by omega) same.2.1
      have own : b = b' := UInt8.toNat.inj (by omega)
      rw [own, ih same.2.2]

/-- Pairs of digits are read, and written again in lower case. -/
theorem decodePairs_digits : ∀ (index : Nat) (cs : List Char), (∀ c ∈ cs, c ∈ digits) →
    cs.length % 2 = 0 →
    ∃ bytes, decodePairs index (cs.map fun c => UInt8.ofNat c.toNat) = .ok bytes ∧
      encodeChars bytes = cs.map Char.toLower
  | _, [], _, _ => ⟨[], rfl, rfl⟩
  | _, [_], _, even => by simp at even
  | index, c :: d :: rest, all, even => by
    obtain ⟨high, small, -, value, lower⟩ := digit_value c (all c (.head _))
    obtain ⟨low, small', -, value', lower'⟩ := digit_value d (all d (.tail _ (.head _)))
    obtain ⟨bytes, read, written⟩ := decodePairs_digits (index + 2) rest
      (fun e among => all e (.tail _ (.tail _ among))) (by simp only [List.length_cons] at even; omega)
    refine ⟨UInt8.ofNat (high * 16 + low) :: bytes, ?_, ?_⟩
    · simp only [List.map_cons, decodePairs, value, value', read]
      rfl
    · have byte : (UInt8.ofNat (high * 16 + low)).toNat = high * 16 + low :=
        Utf8.toNat_byte (by omega)
      have front : (high * 16 + low) / 16 = high := by omega
      have back : (high * 16 + low) % 16 = low := by omega
      rw [encodeChars_cons, byte, front, back, lower, lower', written]
      rfl

/-- Only digits are read. -/
theorem digits_of_decodePairs : ∀ (index : Nat) (read bytes : Bytes), read.length % 2 = 0 →
    decodePairs index read = .ok bytes → ∀ b ∈ read, (digitValue? b).isSome = true
  | _, [], _, _, _ => fun _ among => absurd among List.not_mem_nil
  | _, [_], _, even, _ => by simp at even
  | index, a :: b :: rest, bytes, even, ok => by
    rw [decodePairs] at ok
    split at ok
    · rename_i high low value value'
      obtain ⟨later, pairs, -⟩ := Except.bind_eq_ok.mp ok
      have others := digits_of_decodePairs (index + 2) rest later
        (by simp only [List.length_cons] at even; omega) pairs
      simp only [List.mem_cons, forall_eq_or_imp, value, value', Option.isSome_some, true_and]
      exact others
    · cases ok
    · cases ok

/-! ## Reading and writing -/

variable {s : String}

theorem decode_of_digits (all : ∀ c ∈ s.toList, c ∈ digits) (even : s.toList.length % 2 = 0) :
    ∃ bytes, decode s = .ok bytes ∧ encodeChars bytes = s.toList.map Char.toLower := by
  obtain ⟨bytes, read, written⟩ := decodePairs_digits 0 s.toList all even
  refine ⟨bytes, ?_, written⟩
  have length : ¬ (s.toList.map fun c => UInt8.ofNat c.toNat).length % 2 = 1 := by
    rw [List.length_map, even]
    exact Nat.zero_ne_one
  rw [decode, bytesOf, encode_digits all]
  exact (if_neg length).trans read

theorem digits_of_decode (ok : decode s = .ok bytes) :
    (∀ c ∈ s.toList, c ∈ digits) ∧ s.toList.length % 2 = 0 := by
  rw [decode] at ok
  split at ok
  · cases ok
  · rename_i even
    have length : (bytesOf s).length % 2 = 0 := by omega
    have all : ∀ c ∈ s.toList, c ∈ digits :=
      mem_digits_of_encode (digits_of_decodePairs 0 _ bytes length ok)
    rw [bytesOf, encode_digits all, List.length_map] at length
    exact ⟨all, length⟩

/-- A text can be read as bytes if it is made of an even number of digits. -/
theorem decode_isOk (s : String) : (∃ bytes, decode s = .ok bytes) ↔
    s.toList.length % 2 = 0 ∧ ∀ c ∈ s.toList, c ∈ digits := by
  constructor
  · rintro ⟨bytes, ok⟩
    exact (digits_of_decode ok).symm
  · rintro ⟨even, all⟩
    obtain ⟨bytes, read, -⟩ := decode_of_digits all even
    exact ⟨bytes, read⟩

/-- What is written for the bytes that were read is the text in lower case. -/
theorem encode_decode (ok : decode s = .ok bytes) :
    encode bytes = String.ofList (s.toList.map Char.toLower) := by
  obtain ⟨all, even⟩ := digits_of_decode ok
  obtain ⟨own, read, written⟩ := decode_of_digits all even
  cases ok.symm.trans read
  exact congrArg String.ofList written

/-- What is written for bytes is read as those bytes. -/
theorem decode_encode (bytes : Bytes) : decode (encode bytes) = .ok bytes := by
  have own : (encode bytes).toList = encodeChars bytes := String.toList_ofList
  have all : ∀ c ∈ (encode bytes).toList, c ∈ digits := fun c among =>
    List.mem_append_left _ (encodeChars_lower bytes c (own ▸ among))
  have even : (encode bytes).toList.length % 2 = 0 := by
    rw [own, encodeChars_length]
    omega
  obtain ⟨read, ok, written⟩ := decode_of_digits all even
  have lower : (encodeChars bytes).map Char.toLower = encodeChars bytes :=
    (List.map_congr_left fun c among => toLower_lower c (encodeChars_lower bytes c among)).trans
      (List.map_id _)
  rw [own, lower] at written
  rw [ok, encodeChars_injective written]

end Backchannel.Text.Hex
