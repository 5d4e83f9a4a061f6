/-
# Backchannel.Proofs.Json.Written -- the leaves of a written value

What the printer writes, the reader reads: each escape as the character that it stands
for, a text as itself, a word as its value and the digits of a whole number as that number.
A number is read up to the first character that does not belong to one, so what follows it
matters (`EndsNumber`).  In a written value that is a comma, a closing bracket or the end.
-/
import Backchannel.Json.Decoder

namespace Backchannel.Json

set_option autoImplicit false

open Backchannel.Numeric

/-! ## Texts -/

/-- The two digits of a control character's code are read as that code. -/
theorem hexUnit?_hexDigit :
    ∀ n < 32, hexUnit? '0' '0' (hexDigit (n / 16)) (hexDigit (n % 16)) = some n := by
  decide

theorem readEscape_control {c : Char} (low : c.toNat < 0x20) (s : List Char) :
    readEscape ('u' :: '0' :: '0' :: hexDigit (c.toNat / 16) :: hexDigit (c.toNat % 16) :: s) =
      .ok (c, s) := by
  have unit := hexUnit?_hexDigit c.toNat low
  have trails : isTrailing c.toNat = false := by simp [isTrailing]; omega
  have leads : isLeading c.toNat = false := by simp [isLeading]; omega
  simp [readEscape, readUnicode, readUnit, unit, trails, leads, bind, Except.bind]

/-- However a character is written, it is read in one step. -/
theorem readChars_escape (fuel : Nat) (c : Char) (s done : List Char) :
    readChars (fuel + 1) (escape c ++ s) done = readChars fuel s (c :: done) := by
  unfold escape
  split
  · subst_vars; rfl
  split
  · subst_vars; rfl
  split
  · subst_vars; rfl
  split
  · subst_vars; rfl
  split
  · subst_vars; rfl
  split
  · subst_vars; rfl
  split
  · subst_vars; rfl
  split
  · rename_i low
    simp [readChars, readEscape_control low, bind, Except.bind]
  · rename_i quote backslash _ _ _ _ _ low
    simp [readChars, quote, backslash, low]

theorem readChars_write (cs rest : List Char) {fuel : Nat} (enough : cs.length < fuel)
    (done : List Char) :
    readChars fuel (writeChars cs rest) done = .ok (String.ofList (done.reverse ++ cs), rest) := by
  induction cs generalizing fuel done with
  | nil =>
    obtain ⟨fuel, rfl⟩ := Nat.exists_eq_add_one_of_ne_zero (Nat.ne_of_gt enough)
    simp [writeChars, readChars]
  | cons c cs ih =>
    obtain ⟨fuel, rfl⟩ := Nat.exists_eq_add_one_of_ne_zero
      (Nat.ne_of_gt (Nat.zero_lt_of_lt enough))
    have first : writeChars (c :: cs) rest = escape c ++ writeChars cs rest := rfl
    rw [first, readChars_escape, ih (by simpa using enough)]
    simp

theorem escape_length_pos (c : Char) : 0 < (escape c).length := by
  unfold escape
  repeat' split
  all_goals simp

/-- Every character takes room, and the closing quote does. -/
theorem writeChars_length (cs rest : List Char) :
    cs.length + 1 + rest.length ≤ (writeChars cs rest).length := by
  induction cs with
  | nil => simp [writeChars, Nat.add_comm]
  | cons c cs ih =>
    have first : writeChars (c :: cs) rest = escape c ++ writeChars cs rest := rfl
    have some := escape_length_pos c
    rw [first, List.length_append, List.length_cons]
    omega

/-- A text is read as it was before it was written. -/
theorem readText_write (s : String) (rest : List Char) :
    readText (writeChars s.toList rest) = .ok (s, rest) := by
  have long := writeChars_length s.toList rest
  rw [readText, readChars_write s.toList rest (by omega)]
  simp

/-! ## Numbers -/

/-- No number goes on with what follows. -/
def EndsNumber (rest : List Char) : Prop :=
  ∀ c s, rest = c :: s → isDigit c = false ∧ c ≠ '.' ∧ isExponentMark c = false

theorem endsNumber_cons {c : Char} {s : List Char} (digit : isDigit c = false) (point : c ≠ '.')
    (mark : isExponentMark c = false) : EndsNumber (c :: s) := by
  rintro _ _ ⟨⟩
  exact ⟨digit, point, mark⟩

/-- What follows digits that it does not go on with is what they are read before. -/
theorem span_digits {ds rest : List Char} (digits : ∀ c ∈ ds, isDigit c = true)
    (ends : ∀ c s, rest = c :: s → isDigit c = false) :
    (ds ++ rest).takeWhile isDigit = ds ∧ (ds ++ rest).dropWhile isDigit = rest := by
  induction ds with
  | nil =>
    cases rest with
    | nil => exact ⟨rfl, rfl⟩
    | cons c s => simp [ends c s rfl]
  | cons d ds ih =>
    have here := digits d (by simp)
    have there := ih fun c among => digits c (by simp [among])
    simp [here, there]

theorem isDigit_of_mem_digitsOf {n : Nat} {c : Char} (among : c ∈ digitsOf n) :
    isDigit c = true := by
  have digit := Nat.isDigit_of_mem_toDigits (by decide) (by decide) among
  simpa [Char.isDigit, isDigit, Char.le_def] using digit

/-- The digits of a number start with one that is not zero, but for those of zero. -/
theorem digitsOf_head {n : Nat} (some : n ≠ 0) : ∃ d ds, digitsOf n = d :: ds ∧ d ≠ '0' := by
  induction n using Nat.strongRecOn with
  | ind n ih =>
    by_cases one : n < 10
    · refine ⟨Nat.digitChar n, [], Nat.toDigits_of_lt_base one, ?_⟩
      have listed : ∀ k < 10, k ≠ 0 → Nat.digitChar k ≠ '0' := by decide
      exact listed n one some
    · obtain ⟨d, ds, front, nonzero⟩ := ih (n / 10) (by omega) (by omega)
      refine ⟨d, ds ++ [Nat.digitChar (n % 10)], ?_, nonzero⟩
      rw [digitsOf, Nat.toDigits_of_base_le (by decide) (by omega)]
      change digitsOf (n / 10) ++ _ = _
      rw [front]
      rfl

theorem le_ofDigitChars (ds : List Char) (n : Nat) : n ≤ Nat.ofDigitChars 10 ds n := by
  induction ds generalizing n with
  | nil => simp
  | cons d ds ih =>
    rw [Nat.ofDigitChars_cons]
    exact Nat.le_trans (by omega) (ih _)

/-- Digits are taken one after the other, as long as their number fits a word. -/
theorem absorb_ofDigitChars {ds : List Char} {n : Nat}
    (fits : Nat.ofDigitChars 10 ds n ≤ wordMax) :
    absorb n ds = (Nat.ofDigitChars 10 ds n, []) := by
  induction ds generalizing n with
  | nil => simp [absorb]
  | cons d ds ih =>
    rw [Nat.ofDigitChars_cons] at fits ⊢
    have step : 10 * n + (d.toNat - '0'.toNat) = n * 10 + digitValue d := by
      simp only [digitValue]; omega
    rw [step] at fits ⊢
    have small : ¬ wordMax < n * 10 + digitValue d := by
      have := le_ofDigitChars ds (n * 10 + digitValue d)
      omega
    rw [absorb, if_neg small, ih fits]

/-- The digits of a number that fits a word are read as that number. -/
theorem readNumber_digitsOf (negative : Bool) {n : Nat} (fits : n ≤ wordMax) {rest : List Char}
    (ends : EndsNumber rest) :
    readNumber negative (digitsOf n ++ rest) = .ok (wholeNumber negative n, rest) := by
  have taken : absorb 0 (digitsOf n) = (n, []) := by
    have own : Nat.ofDigitChars 10 (digitsOf n) 0 = n := Nat.ofDigitChars_ten_toDigits
    rw [absorb_ofDigitChars (Nat.le_trans (Nat.le_of_eq own) fits), own]
  have digits : ∀ c ∈ digitsOf n, isDigit c = true := fun c among => isDigit_of_mem_digitsOf among
  obtain ⟨take, drop⟩ := span_digits digits fun c s front => (ends c s front).1
  cases written : digitsOf n with
  | nil => exact absurd written Nat.toDigits_ne_nil
  | cons d ds =>
    have digit : isDigit d = true := isDigit_of_mem_digitsOf (n := n) (by simp [written])
    have plain : ¬ (d = '0' ∧ (ds ++ rest).head?.any isDigit = true) := by
      rintro ⟨zero, follows⟩
      have nothing : n = 0 := by
        apply Decidable.byContradiction
        intro some
        obtain ⟨d', ds', front, nonzero⟩ := digitsOf_head some
        rw [written] at front
        cases front
        exact nonzero zero
      subst nothing
      cases written
      cases rest with
      | nil => simp at follows
      | cons c s => simp [(ends c s rfl).1] at follows
    rw [written] at take drop taken
    rw [List.cons_append] at take drop ⊢
    simp only [readNumber, digit, Bool.not_true, Bool.false_eq_true, if_false, if_neg plain,
      take, drop, taken]
    split
    · rename_i after
      exact absurd rfl (ends '.' after rfl).2.1
    · rename_i c after _
      simp [(ends c after rfl).2.2]
    · simp

theorem wholeNumber_false {n : Nat} (fits : FitsWord n) :
    wholeNumber false n = .whole n fits := by
  rw [wholeNumber, if_neg Bool.false_ne_true, Number.ofInt, dif_pos fits]

theorem wholeNumber_true {n : Nat} (some : n ≠ 0) (fits : FitsWord (-n)) :
    wholeNumber true n = .whole (-n) fits := by
  rw [wholeNumber, if_pos rfl, if_neg some, Number.ofInt, dif_pos fits]

/-- A sign or a digit. -/
def StartsNumber (c : Char) : Prop := c = '-' ∨ isDigit c = true

/-- What the text of a number is read as, wherever it stands. -/
def Number.ReadsAs (n m : Number) : Prop :=
  ∃ c cs, n.chars = c :: cs ∧ StartsNumber c ∧ ∀ rest, EndsNumber rest →
    readScalar? c (cs ++ rest) = some (.ok (.number m, rest))

theorem digit_ne_letter {c : Char} (digit : isDigit c = true) :
    c ≠ 'n' ∧ c ≠ 't' ∧ c ≠ 'f' ∧ c ≠ '-' := by
  refine ⟨?_, ?_, ?_, ?_⟩ <;> rintro rfl <;> exact absurd digit (by decide)

/-- A digit starts a number. -/
theorem readScalar?_digit {c : Char} (digit : isDigit c = true) (s : List Char) :
    readScalar? c s = some ((readNumber false (c :: s)).map fun r => (Value.number r.1, r.2)) := by
  obtain ⟨n, t, f, minus⟩ := digit_ne_letter digit
  simp [readScalar?, n, t, f, minus, digit]

/-- A whole number is read as it was before it was written. -/
theorem Number.whole_readsAs (i : Int) (fits : FitsWord i) :
    Number.ReadsAs (.whole i fits) (.whole i fits) := by
  by_cases below : i < 0
  · obtain ⟨n, rfl⟩ : ∃ n : Nat, i = -n := ⟨i.natAbs, by omega⟩
    have written : intText (-n) = '-' :: digitsOf n := by
      rw [intText, if_pos below, Int.natAbs_neg, Int.natAbs_natCast]
    refine ⟨'-', digitsOf n, written, .inl rfl, ?_⟩
    intro rest ends
    have small : n ≤ wordMax := by simp [FitsWord] at fits; simp [wordMax, wordValues]; omega
    have read := readNumber_digitsOf true small ends
    rw [wholeNumber_true (by omega) fits] at read
    simp [readScalar?, read, Except.map]
  · obtain ⟨n, rfl⟩ : ∃ n : Nat, i = n := ⟨i.natAbs, by omega⟩
    have small : n ≤ wordMax := by simp [FitsWord] at fits; simp [wordMax, wordValues]; omega
    obtain ⟨d, ds, written⟩ : ∃ d ds, digitsOf n = d :: ds := by
      cases written : digitsOf n with
      | nil => exact absurd written Nat.toDigits_ne_nil
      | cons d ds => exact ⟨d, ds, rfl⟩
    have digit : isDigit d = true := isDigit_of_mem_digitsOf (n := n) (by simp [written])
    refine ⟨d, ds, by simp [Number.chars, intText, below, written], .inr digit, ?_⟩
    intro rest ends
    have read := readNumber_digitsOf false small ends
    rw [wholeNumber_false fits, written] at read
    rw [readScalar?_digit digit, ← List.cons_append, read]
    rfl

end Backchannel.Json
