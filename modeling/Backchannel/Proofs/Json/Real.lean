/-
# Backchannel.Proofs.Json.Real -- what is written of a number is read as one

A number that is not whole is written with the shortest digits that round to it, in one of
four layouts.  What is read of them need not be the number, but it is one
(`Number.exists_readsAs`): but for the largest three numbers there is room for the errors of
reading, and those three are looked at one by one.
-/
import Backchannel.Proofs.Json.Digits

namespace Backchannel.Json

set_option autoImplicit false

open Backchannel.Numeric

variable {negative : Bool}

/-! ## Layouts -/

theorem isDigit_of_mem_zeros {n : Nat} {c : Char} (among : c ∈ List.replicate n '0') :
    isDigit c = true := by
  rw [List.eq_of_mem_replicate among]
  decide

section

variable {c : Char} {cs : List Char} {e : Int}

/-- Zeros stand in for the digits that a whole value lacks. -/
theorem NumberText.whole (digits : ∀ d ∈ c :: cs, isDigit d = true)
    (front : c = '0' → cs = [] ∧ e = 0) (short : cs.length + e.toNat < 19) :
    NumberText negative (c :: cs ++ List.replicate e.toNat '0' ++ ['.', '0']) := by
  refine .positional ⟨?_, ?_, ?_⟩ (List.cons_ne_nil _ _) fun _ => isDigit_of_mem_zeros (n := 1)
  · by_cases nought : c = '0'
    · obtain ⟨rfl, rfl⟩ := front nought
      exact .inl (by rw [nought]; rfl)
    · exact .inr ⟨c, _, rfl, nought⟩
  · intro d among
    rcases List.mem_append.mp among with own | added
    · exact digits d own
    · exact isDigit_of_mem_zeros added
  · rw [List.length_append, List.length_replicate, List.length_cons]
    omega

/-- The point stands between two of the digits. -/
theorem NumberText.inner {k : Nat} (digits : ∀ d ∈ c :: cs, isDigit d = true) (nought : c ≠ '0')
    (inside : k < cs.length) (short : k < 19) :
    NumberText negative ((c :: cs).take (k + 1) ++ '.' :: (c :: cs).drop (k + 1)) := by
  refine .positional ⟨.inr ⟨c, cs.take k, rfl, nought⟩, ?_, ?_⟩ ?_ ?_
  · exact fun d among => digits d (List.mem_of_mem_take among)
  · rw [List.length_take, List.length_cons]
    omega
  · rw [List.drop_succ_cons]
    exact List.ne_nil_of_length_pos (by rw [List.length_drop]; omega)
  · exact fun d among => digits d (List.mem_of_mem_drop among)

/-- All digits stand behind the point. -/
theorem NumberText.small (digits : ∀ d ∈ c :: cs, isDigit d = true) (n : Nat) :
    NumberText negative ('0' :: '.' :: List.replicate n '0' ++ c :: cs) := by
  refine .positional (.digit (c := '0') (by decide)) ?_ ?_
  · exact List.append_ne_nil_of_right_ne_nil _ (List.cons_ne_nil _ _)
  · intro d among
    rcases List.mem_append.mp among with added | own
    · exact isDigit_of_mem_zeros added
    · exact digits d own

end

/-- What makes the text of a decimal the text of a number: without digits it has no exponent
either, and what is taken of its digits can be scaled. -/
structure Readable (d : Decimal) : Prop where
  zero : d.digits = 0 → d.exponent = 0
  exponent : (d.exponent + (digitsOf d.digits).length - 1).natAbs ≤ exponentMax
  scaled : ∃ x, scale (absorb 0 (digitsOf d.digits)).1
    (d.exponent + (absorb 0 (digitsOf d.digits)).2.length) = some x

/-- However a readable decimal is laid out, that is the text of a number. -/
theorem Readable.text {d : Decimal} (readable : Readable d) :
    NumberText negative (realLayout.write d) := by
  obtain ⟨zero, small, scaled⟩ := readable
  have digits : ∀ c ∈ digitsOf d.digits, isDigit c = true :=
    fun c among => isDigit_of_mem_digitsOf among
  obtain ⟨c, cs, written, front⟩ : ∃ c cs, digitsOf d.digits = c :: cs ∧
      (c = '0' → cs = [] ∧ d.exponent = 0) := by
    by_cases none : d.digits = 0
    · refine ⟨'0', [], ?_, fun _ => ⟨rfl, zero none⟩⟩
      rw [none]
      rfl
    · obtain ⟨c, cs, written, other⟩ := digitsOf_head none
      exact ⟨c, cs, written, fun same => absurd same other⟩
  unfold Layout.write
  dsimp only
  rw [written] at digits small scaled ⊢
  rw [List.length_cons] at small ⊢
  generalize d.exponent = e at front small scaled ⊢
  split
  · rename_i positional
    have low : e + ((cs.length + 1 : Nat) : Int) - 1 < 16 := positional.2
    split
    · exact .whole digits front (by omega)
    · rename_i fraction
      split
      · obtain ⟨k, size⟩ : ∃ k, (e + ((cs.length + 1 : Nat) : Int) - 1 + 1).toNat = k + 1 :=
          ⟨(e + ((cs.length + 1 : Nat) : Int) - 1).toNat, by omega⟩
        have nought : c ≠ '0' := by
          intro nought
          obtain ⟨-, rfl⟩ := front nought
          omega
        rw [size]
        exact .inner digits nought (by omega) (by omega)
      · exact .small digits _
  · have first := digits c (by simp)
    have inside : (absorb 0 (c :: cs)).2.length ≤ cs.length := by
      rw [absorb_cons first]
      exact (absorb_le cs _).2.1
    have same : e + ((cs.length + 1 : Nat) : Int) - 1 -
        ((cs.length - (absorb 0 (c :: cs)).2.length : Nat) : Int) =
          e + (absorb 0 (c :: cs)).2.length := by omega
    rw [List.append_assoc]
    exact .scientific first (fun d among => digits d (List.mem_of_mem_drop among)) small
      (same ▸ scaled)

/-! ## Shortest decimals -/

/-- A decimal that is not too large, nor too fine. -/
structure Modest (d : Decimal) : Prop where
  zero : d.digits = 0 → d.exponent = 0
  low : -500 ≤ d.exponent
  value : d.digits * 10 ^ d.exponent.toNat ≤ safe * 10 ^ (-d.exponent).toNat

/-- The first digit of a decimal that is not too large stands below the 309th power of ten. -/
theorem Modest.exponent_le {d : Decimal} (modest : Modest d) :
    d.exponent + (digitsOf d.digits).length - 1 < 309 := by
  obtain ⟨zero, low, value⟩ := modest
  by_cases none : d.digits = 0
  · rw [none, zero none]
    decide
  · obtain ⟨k, size, large⟩ := safe_lt
    generalize written : digitsOf d.digits = ds
    have power : 10 ^ (ds.length - 1) ≤ d.digits := by
      rcases Nat.eq_zero_or_pos (ds.length - 1) with one | more
      · rw [one]
        omega
      · apply Nat.not_lt.mp
        intro below
        have short := (Nat.length_toDigits_le_iff (by decide) more).mpr below
        change (digitsOf d.digits).length ≤ ds.length - 1 at short
        rw [written] at short
        omega
    have apart : 10 ^ (ds.length - 1 + d.exponent.toNat) < 10 ^ (k + (-d.exponent).toNat) := by
      rw [Nat.pow_add, Nat.pow_add]
      calc 10 ^ (ds.length - 1) * 10 ^ d.exponent.toNat
          ≤ d.digits * 10 ^ d.exponent.toNat := Nat.mul_le_mul_right _ power
        _ ≤ safe * 10 ^ (-d.exponent).toNat := value
        _ < 10 ^ k * 10 ^ (-d.exponent).toNat :=
            Nat.mul_lt_mul_of_pos_right large (Nat.pow_pos (by decide))
    have exponents := (Nat.pow_lt_pow_iff_right (by decide)).mp apart
    omega

theorem Modest.readable {d : Decimal} (modest : Modest d) : Readable d := by
  have high := modest.exponent_le
  obtain ⟨zero, low, value⟩ := modest
  refine ⟨zero, ?_, ?_⟩
  · have length : 0 < (digitsOf d.digits).length := Nat.length_toDigits_pos
    have room : 1000 ≤ exponentMax := by decide
    omega
  · apply scale_some
    have own : Nat.ofDigitChars 10 (digitsOf d.digits) 0 = d.digits :=
      Nat.ofDigitChars_ten_toDigits
    obtain ⟨less, -, -⟩ := absorb_le (digitsOf d.digits) 0
    rw [own] at less
    generalize absorb 0 (digitsOf d.digits) = taken at less ⊢
    obtain ⟨n, dropped⟩ := taken
    generalize dropped.length = r at less ⊢
    generalize d.exponent = e at value ⊢
    dsimp only at less ⊢
    apply Nat.le_of_mul_le_mul_right (c := 10 ^ (-e).toNat) _ (Nat.pow_pos (by decide))
    have powers : 10 ^ (e + r).toNat * 10 ^ (-e).toNat =
        10 ^ r * 10 ^ e.toNat * 10 ^ (-(e + r)).toNat := by
      rw [← Nat.pow_add, ← Nat.pow_add, ← Nat.pow_add]
      congr 1
      omega
    calc n * 10 ^ (e + r).toNat * 10 ^ (-e).toNat
        = n * 10 ^ r * 10 ^ e.toNat * 10 ^ (-(e + r)).toNat := by
          rw [Nat.mul_assoc, powers]
          ac_rfl
      _ ≤ d.digits * 10 ^ e.toNat * 10 ^ (-(e + r)).toNat :=
          Nat.mul_le_mul_right _ (Nat.mul_le_mul_right _ less)
      _ ≤ safe * 10 ^ (-e).toNat * 10 ^ (-(e + r)).toNat := Nat.mul_le_mul_right _ value
      _ = safe * 10 ^ (-(e + r)).toNat * 10 ^ (-e).toNat := Nat.mul_right_comm ..

theorem Modest.dropZeros {d : Decimal} (modest : Modest d) (fuel : Nat) :
    Modest (d.dropZeros fuel) := by
  induction fuel generalizing d with
  | zero => exact modest
  | succ fuel ih =>
    rw [Decimal.dropZeros]
    split
    · rename_i zeros
      obtain ⟨zero, low, value⟩ := modest
      apply ih
      have whole : d.digits / 10 * 10 = d.digits := by omega
      refine ⟨fun none => absurd none (by dsimp only; omega), by dsimp only; omega, ?_⟩
      dsimp only
      generalize d.exponent = e at value ⊢
      rcases Int.lt_or_le e 0 with below | above
      · have none : e.toNat = 0 := by omega
        have none' : (e + 1).toNat = 0 := by omega
        have power : 10 ^ (-e).toNat = 10 ^ (-(e + 1)).toNat * 10 := by
          rw [← Nat.pow_succ]
          congr 1
          omega
        rw [none, power, ← Nat.mul_assoc] at value
        rw [none']
        omega
      · have none : (-e).toNat = 0 := by omega
        have none' : (-(e + 1)).toNat = 0 := by omega
        have power : 10 ^ (e + 1).toNat = 10 * 10 ^ e.toNat := by
          rw [show (e + 1).toNat = e.toNat + 1 by omega, Nat.pow_succ, Nat.mul_comm]
        rw [none', power, ← Nat.mul_assoc, whole]
        rw [none] at value
        exact value
    · exact modest

theorem log10Fraction_ge (num den fuel : Nat) (k : Int) :
    k - fuel ≤ log10Fraction num den fuel k := by
  induction fuel generalizing k with
  | zero => simp [log10Fraction]
  | succ fuel ih =>
    rw [log10Fraction]
    split
    · omega
    · have rest := ih (k - 1)
      omega

/-- A decimal that is looked at reads back, and is as fine as its count of digits allows. -/
theorem candidate?_some {tie : Tie} {x : Binary64} {top : Int} {count : Nat} {d : Decimal}
    (found : candidate? tie x top count = some d) :
    readsBack x d = true ∧ d.exponent = top - count + 1 := by
  unfold candidate? at found
  dsimp only at found
  split at found
  · rename_i lo hi
    cases found
    unfold nearer
    dsimp only
    split
    · exact ⟨lo, rfl⟩
    · split
      · exact ⟨hi, rfl⟩
      · split
        · exact ⟨lo, rfl⟩
        · exact ⟨hi, rfl⟩
  · rename_i lo hi
    cases found
    exact ⟨lo, rfl⟩
  · rename_i lo hi
    cases found
    exact ⟨hi, rfl⟩
  · cases found

theorem topStep_safe : (2 ^ 53 - 3) * topStep = safe * unit := by decide +kernel

/-- What is rounded to a number below the largest three is safe. -/
theorem le_safe_of_rank {a b : Nat} (hb : 0 < b)
    (low : rankOfFraction a b < 2045 * fractions + (2 ^ 53 - 3)) : a ≤ safe * b := by
  have less := lt_of_rankOfFraction_lt hb (by decide) (by decide) low
  apply Nat.le_of_lt
  apply Nat.lt_of_mul_lt_mul_right (a := unit)
  calc a * unit < (2 ^ 53 - 3) * (b * topStep) := less
    _ = (2 ^ 53 - 3) * topStep * b := by ac_rfl
    _ = safe * b * unit := by
        rw [topStep_safe]
        ac_rfl

theorem num_le_safe {x : Binary64} (low : x.rank < 2045 * fractions + (2 ^ 53 - 3)) :
    x.num ≤ safe * x.den := by
  have units := unitsOf_le (by decide) (by decide) (Nat.le_of_lt low)
  apply Nat.le_of_mul_le_mul_right _ unit_pos
  calc x.num * unit = unitsOf x.rank * x.den := x.num_mul_unit
    _ ≤ (2 ^ 53 - 3) * topStep * x.den := Nat.mul_le_mul_right _ units
    _ = safe * x.den * unit := by
        rw [topStep_safe]
        ac_rfl

/-- Below the largest three numbers the shortest decimal is modest. -/
theorem modest_shortest {x : Binary64} (low : x.rank < 2045 * fractions + (2 ^ 53 - 3))
    (tie : Tie) : Modest (x.shortest tie) := by
  unfold Binary64.shortest
  split
  · exact ⟨fun _ => rfl, by decide, by decide⟩
  · rename_i some
    apply Modest.dropZeros
    cases found : (List.range 17).findSome? fun i =>
        candidate? tie x (log10Fraction x.num x.den 700 310) (i + 1) with
    | none =>
      have floor : x.num / x.den ≤ safe :=
        Nat.div_le_of_le_mul (Nat.mul_comm safe x.den ▸ num_le_safe low)
      refine ⟨fun _ => rfl, Int.neg_nonpos_of_nonneg (by decide), ?_⟩
      exact Nat.mul_le_mul_right 1 floor
    | some d =>
      obtain ⟨i, inside, found⟩ := List.exists_of_findSome?_eq_some found
      obtain ⟨back, exponent⟩ := candidate?_some found
      have few := List.mem_range.mp inside
      have top := log10Fraction_ge x.num x.den 700 310
      have same : rankOfFraction d.num d.den = x.rank := by simpa [readsBack] using back
      refine ⟨fun none => ?_, ?_, ?_⟩
      · -- Without digits it would read back as zero.
        have nothing : d.num = 0 := by
          change d.digits * _ = 0
          rw [show d.digits = 0 from none, Nat.zero_mul]
        rw [nothing, rankOfFraction, if_pos rfl] at same
        exact absurd (show x.isZero = true by rw [Binary64.isZero, ← same]; rfl) some
      · change -500 ≤ d.exponent
        omega
      · exact le_safe_of_rank (Nat.pow_pos (by decide)) (same ▸ low)

instance (d : Decimal) : Decidable (Readable d) :=
  decidable_of_iff ((d.digits = 0 → d.exponent = 0) ∧
      (d.exponent + (digitsOf d.digits).length - 1).natAbs ≤ exponentMax ∧
      (scale (absorb 0 (digitsOf d.digits)).1
        (d.exponent + (absorb 0 (digitsOf d.digits)).2.length)).isSome = true)
    ⟨fun ⟨zero, small, scaled⟩ => ⟨zero, small, Option.isSome_iff_exists.mp scaled⟩,
      fun ⟨zero, small, scaled⟩ => ⟨zero, small, Option.isSome_iff_exists.mpr scaled⟩⟩

theorem candidate?_sign (negative : Bool) {rank : Nat} (finite : rank < rankBound) (tie : Tie)
    (top : Int) (count : Nat) :
    candidate? tie ⟨negative, rank, finite⟩ top count =
      candidate? tie ⟨false, rank, finite⟩ top count := rfl

/-- The digits of a number do not depend on its sign. -/
theorem shortest_sign (negative : Bool) {rank : Nat} (finite : rank < rankBound) (tie : Tie) :
    Binary64.shortest ⟨negative, rank, finite⟩ tie =
      Binary64.shortest ⟨false, rank, finite⟩ tie := by
  unfold Binary64.shortest
  simp only [candidate?_sign negative]
  rfl

/-- The number that is so many below the largest. -/
def nearLargest (k : Nat) : Binary64 :=
  ⟨false, rankBound - 1 - k, by unfold rankBound fractions; omega⟩

theorem readable_nearLargest : ∀ k < 3, Readable ((nearLargest k).shortest .toEven) := by
  decide +kernel

/-- Of every number the shortest decimal is written so that it can be read. -/
theorem readable_shortest (x : Binary64) : Readable (x.shortest .toEven) := by
  obtain ⟨negative, rank, finite⟩ := x
  by_cases low : rank < 2045 * fractions + (2 ^ 53 - 3)
  · exact (modest_shortest low .toEven).readable
  · rw [shortest_sign]
    obtain ⟨k, few, rfl⟩ : ∃ k, k < 3 ∧ rank = rankBound - 1 - k := by
      refine ⟨rankBound - 1 - rank, ?_, ?_⟩ <;> unfold rankBound fractions at * <;> omega
    exact readable_nearLargest k few

/-- The text of a real number is read as some number. -/
theorem Number.real_readsAs (x : Binary64) : ∃ m, Number.ReadsAs (.real x) m := by
  obtain ⟨⟨c, cs, written, digit⟩, m, reads⟩ := @Readable.text x.negative _ (readable_shortest x)
  refine ⟨m, ?_⟩
  cases below : x.negative with
  | true =>
    rw [below] at reads
    have shown : (Number.real x).chars = '-' :: realLayout.write (x.shortest .toEven) := by
      rw [chars, realText, below]
      rfl
    refine ⟨'-', _, shown, .inl rfl, fun rest ends => ?_⟩
    have scalar : ∀ s, readScalar? '-' s =
        some ((readNumber true s).map fun r => (Value.number r.1, r.2)) := fun _ => rfl
    rw [scalar, reads rest ends]
    rfl
  | false =>
    rw [below] at reads
    have shown : (Number.real x).chars = c :: cs := by
      rw [chars, realText, below, ← written]
      rfl
    refine ⟨c, cs, shown, .inr digit, fun rest ends => ?_⟩
    rw [readScalar?_digit digit, ← List.cons_append, ← written, reads rest ends]
    rfl

/-- Every number is read as some number. -/
theorem Number.exists_readsAs (n : Number) : ∃ m, n.ReadsAs m := by
  cases n with
  | whole i fits => exact ⟨_, Number.whole_readsAs i fits⟩
  | real x => exact Number.real_readsAs x

end Backchannel.Json
