/-
# Backchannel.Proofs.Numeric.Rounding -- how far rounding goes

Magnitudes are compared as whole numbers: `Binary64.units` counts a number in the least
positive one, which is `unit` to one, and a fraction `a / b` is `a * unit` of them to `b`.
Rounding a fraction looks for the binade it stands in (`InBinade`) and rounds the quotient by
the step of that binade, so all there is to say of it comes from `roundDiv` and one equation
(`rankOfFraction_eq`): when the result is finite, how far it is off, and how large the
fraction can have been.
-/
import Mathlib.Algebra.Group.Nat.Defs
import Backchannel.Numeric.Binary64

namespace Backchannel.Numeric

set_option autoImplicit false

/-! ## Rounding a quotient -/

theorem roundDiv_cases (a d : Nat) :
    (roundDiv a d = a / d ∧ 2 * (a % d) ≤ d) ∨
      (roundDiv a d = a / d + 1 ∧ d ≤ 2 * (a % d)) := by
  unfold roundDiv
  dsimp only
  split
  · exact .inl ⟨rfl, by omega⟩
  · split
    · exact .inr ⟨rfl, by omega⟩
    · rcases Nat.mod_two_eq_zero_or_one (a / d) with even | odd
      · exact .inl ⟨by omega, by omega⟩
      · exact .inr ⟨by omega, by omega⟩

variable {a b c d k : Nat}

/-- A quotient is rounded to zero up to one half. -/
theorem roundDiv_eq_zero_iff (pos : 0 < d) : roundDiv a d = 0 ↔ 2 * a ≤ d := by
  have split := Nat.div_add_mod a d
  have rest := Nat.mod_lt a pos
  unfold roundDiv
  by_cases below : a < d
  · have whole : a / d = 0 := Nat.div_eq_of_lt below
    have left : a % d = a := Nat.mod_eq_of_lt below
    rw [whole, left]
    grind
  · have whole : 0 < a / d := Nat.div_pos (by omega) pos
    grind

theorem roundDiv_mul_right (pos : 0 < c) : roundDiv (a * c) (d * c) = roundDiv a d := by
  have twice : 2 * (a % d * c) = 2 * (a % d) * c := (Nat.mul_assoc ..).symm
  unfold roundDiv
  simp only [Nat.mul_div_mul_right _ _ pos, Nat.mul_mod_mul_right, twice,
    Nat.mul_lt_mul_right pos, gt_iff_lt]

theorem le_roundDiv (pos : 0 < d) (below : k * d ≤ a) : k ≤ roundDiv a d := by
  have floor : k ≤ a / d := (Nat.le_div_iff_mul_le pos).mpr below
  rcases roundDiv_cases a d with ⟨same, -⟩ | ⟨same, -⟩ <;> omega

/-- Rounding adds at most half a step. -/
theorem roundDiv_mul_le (a d : Nat) : 2 * (roundDiv a d * d) ≤ 2 * a + d := by
  have split := Nat.div_add_mod a d
  rw [Nat.mul_comm] at split
  rcases roundDiv_cases a d with ⟨same, -⟩ | ⟨same, up⟩ <;> rw [same]
  · omega
  · rw [Nat.succ_mul (a / d) d]
    omega

/-- What is less than half a step above a number is rounded to it at most. -/
theorem roundDiv_le (pos : 0 < d) (above : 2 * a < (2 * k + 1) * d) : roundDiv a d ≤ k := by
  apply Nat.not_lt.mp
  intro beyond
  have whole : (k + 1) * d ≤ roundDiv a d * d := Nat.mul_le_mul_right d beyond
  have split := Nat.div_add_mod a d
  rw [Nat.mul_comm] at split
  have double : (2 * k + 1) * d = 2 * (k * d) + d := by
    rw [Nat.succ_mul, Nat.mul_assoc]
  rw [Nat.succ_mul] at whole
  rcases roundDiv_cases a d with ⟨same, -⟩ | ⟨same, up⟩ <;> rw [same] at whole
  · omega
  · rw [Nat.succ_mul] at whole
    omega

/-! ## The binade of a fraction -/

/-- A power of two that is too large to be worked out. -/
@[irreducible] def twoTo (k : Nat) : Nat := 2 ^ k

theorem twoTo_eq (k : Nat) : twoTo k = 2 ^ k := by rw [twoTo]

/-- How many of the least positive number make one. -/
def unit : Nat := twoTo 1074

theorem unit_eq : ∃ k, k = 1074 ∧ unit = 2 ^ k := ⟨1074, rfl, twoTo_eq 1074⟩

theorem unit_pos : 0 < unit := by
  obtain ⟨k, -, power⟩ := unit_eq
  exact power ▸ Nat.two_pow_pos k

/-- The fraction stands in the binade of that number, counted from the least one; what is
below all of them is counted in the least. -/
structure InBinade (a b p : Nat) : Prop where
  below : a * unit < b * 2 ^ (p + 53)
  above : p = 0 ∨ b * 2 ^ (p + 52) ≤ a * unit

theorem pow_toNat {m n : Nat} {k : Int} (apart : (m : Int) = n + k) :
    2 ^ m * 2 ^ (-k).toNat = 2 ^ n * 2 ^ k.toNat := by
  rw [← Nat.pow_add, ← Nat.pow_add]
  congr 1
  omega

/-- The logarithm that is found is the one that is looked for. -/
theorem log2Fraction_bounds (ha : 0 < a) (hb : 0 < b) :
    b * 2 ^ (log2Fraction a b).toNat ≤ a * 2 ^ (-log2Fraction a b).toNat ∧
      a * 2 ^ (-(log2Fraction a b + 1)).toNat < b * 2 ^ (log2Fraction a b + 1).toNat := by
  have a_low := Nat.log2_self_le (Nat.pos_iff_ne_zero.mp ha)
  have a_high := Nat.lt_log2_self (n := a)
  have b_low := Nat.log2_self_le (Nat.pos_iff_ne_zero.mp hb)
  have b_high := Nat.lt_log2_self (n := b)
  unfold log2Fraction
  dsimp only
  simp only [Nat.pow_eq, decide_eq_true_eq]
  generalize a.log2 = m at a_low a_high ⊢
  generalize b.log2 = n at b_low b_high ⊢
  split
  · rename_i reaches
    refine ⟨reaches, ?_⟩
    have apart : ((m + 1 : Nat) : Int) = n + ((m : Int) - n + 1) := by omega
    calc a * 2 ^ (-((m : Int) - n + 1)).toNat
        < 2 ^ (m + 1) * 2 ^ (-((m : Int) - n + 1)).toNat :=
          Nat.mul_lt_mul_of_pos_right a_high (Nat.two_pow_pos _)
      _ = 2 ^ n * 2 ^ ((m : Int) - n + 1).toNat := pow_toNat apart
      _ ≤ b * 2 ^ ((m : Int) - n + 1).toNat := Nat.mul_le_mul_right _ b_low
  · rename_i misses
    have back : (m : Int) - n - 1 + 1 = m - n := by omega
    rw [back]
    refine ⟨?_, Nat.not_le.mp misses⟩
    have apart : (m : Int) = (n + 1 : Nat) + ((m : Int) - n - 1) := by omega
    calc b * 2 ^ ((m : Int) - n - 1).toNat
        ≤ 2 ^ (n + 1) * 2 ^ ((m : Int) - n - 1).toNat :=
          Nat.mul_le_mul_right _ (Nat.le_of_lt b_high)
      _ = 2 ^ m * 2 ^ (-((m : Int) - n - 1)).toNat := (pow_toNat apart).symm
      _ ≤ a * 2 ^ (-((m : Int) - n - 1)).toNat := Nat.mul_le_mul_right _ a_low

/-- The binade in which `rankOfFraction` rounds. -/
def binade (a b : Nat) : Nat := (max (-1074) (log2Fraction a b - 52) + 1074).toNat

theorem inBinade (ha : 0 < a) (hb : 0 < b) : InBinade a b (binade a b) := by
  obtain ⟨low, high⟩ := log2Fraction_bounds ha hb
  obtain ⟨k, size, power⟩ := unit_eq
  unfold binade
  generalize log2Fraction a b = l at low high ⊢
  constructor
  · -- Both sides times the power that stands on the left of `high`.
    apply Nat.lt_of_mul_lt_mul_right (a := 2 ^ (-(l + 1)).toNat)
    calc a * unit * 2 ^ (-(l + 1)).toNat = a * 2 ^ (-(l + 1)).toNat * unit :=
          Nat.mul_right_comm ..
      _ < b * 2 ^ (l + 1).toNat * unit :=
          Nat.mul_lt_mul_of_pos_right high unit_pos
      _ ≤ b * 2 ^ ((max (-1074) (l - 52) + 1074).toNat + 53) * 2 ^ (-(l + 1)).toNat := by
          rw [power, Nat.mul_assoc, Nat.mul_assoc, ← Nat.pow_add, ← Nat.pow_add]
          exact Nat.mul_le_mul_left b (Nat.pow_le_pow_right (by decide) (by omega))
  · rcases Int.le_total (l - 52) (-1074) with least | above
    · left
      omega
    · right
      apply Nat.le_of_mul_le_mul_right (c := 2 ^ (-l).toNat) _ (Nat.two_pow_pos _)
      calc b * 2 ^ ((max (-1074) (l - 52) + 1074).toNat + 52) * 2 ^ (-l).toNat
          = b * 2 ^ l.toNat * unit := by
            rw [power, Nat.mul_assoc, Nat.mul_assoc, ← Nat.pow_add, ← Nat.pow_add,
              show (max (-1074) (l - 52) + 1074).toNat + 52 + (-l).toNat = l.toNat + k by omega]
        _ ≤ a * 2 ^ (-l).toNat * unit := Nat.mul_le_mul_right _ low
        _ = a * unit * 2 ^ (-l).toNat := Nat.mul_right_comm ..

/-- A fraction is rounded by the step of its binade. -/
theorem rankOfFraction_eq (ha : 0 < a) :
    rankOfFraction a b =
      binade a b * fractions + roundDiv (a * unit) (b * 2 ^ binade a b) := by
  obtain ⟨k, size, power⟩ := unit_eq
  rw [rankOfFraction, if_neg (Nat.pos_iff_ne_zero.mp ha)]
  simp only [Nat.pow_eq]
  change binade a b * fractions + _ = _
  unfold binade
  have least : -1074 ≤ max (-1074) (log2Fraction a b - 52) := by omega
  generalize max (-1074) (log2Fraction a b - 52) = e at least ⊢
  have numerator : a * 2 ^ (-e).toNat * 2 ^ (k - (-e).toNat) = a * unit := by
    rw [Nat.mul_assoc, ← Nat.pow_add, power, show (-e).toNat + (k - (-e).toNat) = k by omega]
  have denominator : b * 2 ^ e.toNat * 2 ^ (k - (-e).toNat) = b * 2 ^ (e + 1074).toNat := by
    rw [Nat.mul_assoc, ← Nat.pow_add,
      show e.toNat + (k - (-e).toNat) = (e + 1074).toNat by omega]
  rw [← numerator, ← denominator, roundDiv_mul_right (Nat.two_pow_pos _)]

/-- What a positive fraction is rounded to: so many steps of its binade. -/
structure Rounded (a b p q : Nat) : Prop extends InBinade a b p where
  rank : rankOfFraction a b = p * fractions + q
  steps : q = roundDiv (a * unit) (b * 2 ^ p)
  most : q ≤ 2 ^ 53
  least : p = 0 ∨ 2 ^ 52 ≤ q

theorem mul_pow_add (b p k : Nat) : b * 2 ^ (p + k) = 2 ^ k * (b * 2 ^ p) := by
  rw [Nat.pow_add, ← Nat.mul_assoc, Nat.mul_comm]

theorem exists_rounded (ha : 0 < a) (hb : 0 < b) : ∃ p q, Rounded a b p q := by
  obtain ⟨below, above⟩ := inBinade ha hb
  have pos : 0 < b * 2 ^ binade a b := Nat.mul_pos hb (Nat.two_pow_pos _)
  refine ⟨binade a b, _, ⟨below, above⟩, rankOfFraction_eq ha, rfl, ?_, ?_⟩
  · rw [mul_pow_add] at below
    exact roundDiv_le pos (by omega)
  · rcases above with lowest | above
    · exact .inl lowest
    · rw [mul_pow_add] at above
      exact .inr (le_roundDiv pos above)

/-! ## Finite numbers in units -/

/-- How many units the number of that rank is. -/
def unitsOf (rank : Nat) : Nat :=
  if rank < fractions then rank
  else (fractions + rank % fractions) * 2 ^ (rank / fractions - 1)

theorem unitsOf_eq {p q : Nat} (most : q ≤ 2 ^ 53) (least : p = 0 ∨ 2 ^ 52 ≤ q) :
    unitsOf (p * fractions + q) = q * 2 ^ p := by
  unfold unitsOf fractions
  split
  · obtain rfl : p = 0 := by omega
    simp
  · rename_i normal
    by_cases carry : q = 2 ^ 53
    · -- The last step of a binade is the first of the next.
      have next : (p * 4503599627370496 + q) / 4503599627370496 - 1 = p + 1 := by omega
      have first : (p * 4503599627370496 + q) % 4503599627370496 = 0 := by omega
      rw [next, first, carry, Nat.pow_succ, Nat.mul_comm (2 ^ p)]
      exact (Nat.mul_assoc 4503599627370496 2 (2 ^ p)).symm
    · have same : (p * 4503599627370496 + q) / 4503599627370496 - 1 = p := by omega
      have rest : 4503599627370496 + (p * 4503599627370496 + q) % 4503599627370496 = q := by omega
      rw [same, rest]

theorem exists_steps (rank : Nat) :
    ∃ p q, rank = p * fractions + q ∧ q < 2 ^ 53 ∧ (p = 0 ∨ 2 ^ 52 ≤ q) := by
  by_cases low : rank < fractions
  · exact ⟨0, rank, by omega, by unfold fractions at low; omega, .inl rfl⟩
  · refine ⟨rank / fractions - 1, fractions + rank % fractions, ?_, ?_, .inr ?_⟩ <;>
      unfold fractions at low ⊢ <;> omega

theorem unitsOf_mono {r s : Nat} (le : r ≤ s) : unitsOf r ≤ unitsOf s := by
  induction le with
  | refl => exact Nat.le_refl _
  | step _ ih =>
    refine Nat.le_trans ih ?_
    rename_i m _
    obtain ⟨p, q, rfl, most, least⟩ := exists_steps m
    rw [unitsOf_eq (Nat.le_of_lt most) least, Nat.succ_eq_add_one, Nat.add_assoc,
      unitsOf_eq most (least.imp_right fun some => Nat.le_succ_of_le some)]
    exact Nat.mul_le_mul_right _ (Nat.le_succ q)

/-- The units of a finite number are its magnitude. -/
theorem Binary64.num_mul_unit (x : Binary64) : x.num * unit = unitsOf x.rank * x.den := by
  obtain ⟨k, size, power⟩ := unit_eq
  unfold num den mantissa exponent unitsOf
  simp only [Nat.pow_eq]
  rw [power]
  split
  · rw [Nat.mul_assoc, ← Nat.pow_add,
      show (-1074 : Int).toNat + k = (-(-1074 : Int)).toNat by omega]
  · rename_i normal
    have same : (((x.rank / fractions : Nat) : Int) - 1075).toNat + k =
        x.rank / fractions - 1 + (-(((x.rank / fractions : Nat) : Int) - 1075)).toNat := by
      unfold fractions at normal ⊢
      omega
    rw [Nat.mul_assoc, Nat.mul_assoc, ← Nat.pow_add, ← Nat.pow_add, same]

theorem Binary64.den_pos (x : Binary64) : 0 < x.den := Nat.two_pow_pos _

/-! ## The highest binade -/

/-- The step of the highest binade, in units. -/
def topStep : Nat := twoTo 2045

theorem topStep_eq : ∃ k, k = 2045 ∧ topStep = 2 ^ k := ⟨2045, rfl, twoTo_eq 2045⟩

variable {m : Nat}

/-- So many steps into the highest binade there are at most so many units. -/
theorem unitsOf_le {rank : Nat} (some : 2 ^ 52 ≤ m) (most : m ≤ 2 ^ 53)
    (le : rank ≤ 2045 * fractions + m) : unitsOf rank ≤ m * topStep := by
  obtain ⟨k, rfl, power⟩ := topStep_eq
  have high := unitsOf_mono le
  rwa [unitsOf_eq most (.inr some), ← power] at high

/-- A fraction is rounded to a finite number if it is less than half a step above the largest. -/
theorem rankOfFraction_lt (hb : 0 < b) (small : 2 * (a * unit) < (2 ^ 54 - 1) * (b * topStep)) :
    rankOfFraction a b < rankBound := by
  rcases Nat.eq_zero_or_pos a with rfl | ha
  · rw [rankOfFraction, if_pos rfl]
    decide
  obtain ⟨p, q, ⟨below, above⟩, rank, steps, most, least⟩ := exists_rounded ha hb
  obtain ⟨k, size, power⟩ := topStep_eq
  rw [power] at small
  have high : p ≤ 2045 := by
    rcases above with lowest | above
    · omega
    · apply Nat.not_lt.mp
      intro beyond
      have larger : b * 2 ^ k * 2 ^ 53 ≤ b * 2 ^ (p + 52) := by
        rw [Nat.mul_assoc, ← Nat.pow_add]
        exact Nat.mul_le_mul_left b (Nat.pow_le_pow_right (by decide) (by omega))
      omega
  rw [rank]
  unfold rankBound fractions
  rcases Nat.lt_or_eq_of_le high with lower | same
  · omega
  · -- In the highest binade the last step is not reached.
    obtain rfl : p = k := same.trans size.symm
    have short : q ≤ 2 ^ 53 - 1 := by
      rw [steps]
      exact roundDiv_le (Nat.mul_pos hb (Nat.two_pow_pos p)) small
    omega

/-- What is rounded to less than so many steps into the highest binade is less than that. -/
theorem lt_of_rankOfFraction_lt (hb : 0 < b) (some : 2 ^ 52 ≤ m) (most : m ≤ 2 ^ 53)
    (low : rankOfFraction a b < 2045 * fractions + m) : a * unit < m * (b * topStep) := by
  obtain ⟨k, size, power⟩ := topStep_eq
  have pos : 0 < b * topStep := Nat.mul_pos hb (power ▸ Nat.two_pow_pos _)
  apply Nat.not_le.mp
  intro large
  have ha : 0 < a := by
    rcases Nat.eq_zero_or_pos a with rfl | ha
    · have room : 0 < m * (b * topStep) := Nat.mul_pos (by omega) pos
      omega
    · exact ha
  obtain ⟨p, q, ⟨below, above⟩, rank, steps, -, least⟩ := exists_rounded ha hb
  have high : 2045 ≤ p := by
    apply Nat.not_lt.mp
    intro lower
    have smaller : b * 2 ^ (p + 53) ≤ 2 ^ 52 * (b * topStep) := by
      rw [power, ← mul_pow_add]
      exact Nat.mul_le_mul_left b (Nat.pow_le_pow_right (by decide) (by omega))
    have room := Nat.mul_le_mul_right (b * topStep) some
    omega
  rw [rank] at low
  unfold fractions at low
  rcases Nat.lt_or_eq_of_le high with higher | same
  · omega
  · have reached : m ≤ q := by
      rw [steps, ← same, ← size, ← power]
      exact le_roundDiv pos large
    omega

/-! ## Relative errors -/

/-- A fraction from one on is rounded up by less than its 2^53rd part. -/
theorem unitsOf_rankOfFraction_le (hb : 0 < b) (one : b ≤ a) :
    b * unitsOf (rankOfFraction a b) * 2 ^ 53 ≤ a * unit * (2 ^ 53 + 1) := by
  obtain ⟨p, q, ⟨below, above⟩, rank, steps, most, least⟩ :=
    exists_rounded (Nat.lt_of_lt_of_le hb one) hb
  obtain ⟨k, size, power⟩ := unit_eq
  have binade : 2 ^ 52 * (b * 2 ^ p) ≤ a * unit := by
    rw [← mul_pow_add]
    rcases above with lowest | above
    · rw [lowest, power]
      exact Nat.mul_le_mul one (Nat.pow_le_pow_right (by decide) (by omega))
    · exact above
  have error := roundDiv_mul_le (a * unit) (b * 2 ^ p)
  have same : b * (q * 2 ^ p) = q * (b * 2 ^ p) := Nat.mul_left_comm ..
  rw [rank, unitsOf_eq most least, same]
  rw [← steps] at error
  generalize q * (b * 2 ^ p) = rounded at error ⊢
  omega

/-- A fraction from one on is rounded to a number from one on. -/
theorem unit_le_unitsOf (hb : 0 < b) (one : b ≤ a) : unit ≤ unitsOf (rankOfFraction a b) := by
  obtain ⟨p, q, ⟨below, -⟩, rank, -, most, least⟩ :=
    exists_rounded (Nat.lt_of_lt_of_le hb one) hb
  obtain ⟨k, size, power⟩ := unit_eq
  have high : k < p + 53 := by
    have larger : b * unit < b * 2 ^ (p + 53) :=
      Nat.lt_of_le_of_lt (Nat.mul_le_mul_right _ one) below
    rw [power] at larger
    exact (Nat.pow_lt_pow_iff_right (by decide)).mp (Nat.lt_of_mul_lt_mul_left larger)
  have some : 2 ^ 52 ≤ q := least.resolve_left (by omega)
  rw [rank, unitsOf_eq most least, power]
  calc 2 ^ k ≤ 2 ^ (52 + p) := Nat.pow_le_pow_right (by decide) (by omega)
    _ = 2 ^ 52 * 2 ^ p := Nat.pow_add ..
    _ ≤ q * 2 ^ p := Nat.mul_le_mul_right _ some

/-! ## Operations -/

namespace Binary64

theorem units_le (x : Binary64) : unitsOf x.rank ≤ (2 ^ 53 - 1) * topStep := by
  have finite := x.finite
  refine unitsOf_le (by decide) (by decide) ?_
  unfold rankBound at finite
  unfold fractions at finite ⊢
  omega

theorem ofFraction_some (negative : Bool) (hb : 0 < b)
    (small : 2 * (a * unit) < (2 ^ 54 - 1) * (b * topStep)) :
    ∃ x, ofFraction negative a b = some x ∧ x.rank = rankOfFraction a b :=
  ⟨_, dif_pos (rankOfFraction_lt hb small), rfl⟩

/-- A product is finite if it is less than half a step above the largest number. -/
theorem mul_some (x y : Binary64)
    (small : 2 * (unitsOf x.rank * unitsOf y.rank) < (2 ^ 54 - 1) * (unit * topStep)) :
    ∃ z, x.mul y = some z := by
  have pos : 0 < x.den * y.den := Nat.mul_pos x.den_pos y.den_pos
  suffices bound : 2 * (x.num * y.num * unit) < (2 ^ 54 - 1) * (x.den * y.den * topStep) by
    obtain ⟨z, made, -⟩ := ofFraction_some (x.negative != y.negative) pos bound
    exact ⟨z, made⟩
  apply Nat.lt_of_mul_lt_mul_right (a := unit)
  calc 2 * (x.num * y.num * unit) * unit = 2 * ((x.num * unit) * (y.num * unit)) := by ac_rfl
    _ = 2 * (unitsOf x.rank * unitsOf y.rank) * (x.den * y.den) := by
        rw [num_mul_unit, num_mul_unit]
        ac_rfl
    _ < (2 ^ 54 - 1) * (unit * topStep) * (x.den * y.den) :=
        Nat.mul_lt_mul_of_pos_right small pos
    _ = (2 ^ 54 - 1) * (x.den * y.den * topStep) * unit := by ac_rfl

/-- Nothing is too large after a division by a number from one on. -/
theorem div_some (x y : Binary64) (one : unit ≤ unitsOf y.rank) : ∃ z, x.div y = some z := by
  have least : y.den ≤ y.num := by
    apply Nat.le_of_mul_le_mul_right _ unit_pos
    rw [num_mul_unit, Nat.mul_comm]
    exact Nat.mul_le_mul_right _ one
  have pos : 0 < x.den * y.num :=
    Nat.mul_pos x.den_pos (Nat.lt_of_lt_of_le y.den_pos least)
  suffices bound : 2 * (x.num * y.den * unit) < (2 ^ 54 - 1) * (x.den * y.num * topStep) by
    obtain ⟨z, made, -⟩ := ofFraction_some (x.negative != y.negative) pos bound
    exact ⟨z, made⟩
  have room : 0 < x.den * y.num * topStep := by
    obtain ⟨k, -, power⟩ := topStep_eq
    exact Nat.mul_pos pos (power ▸ Nat.two_pow_pos k)
  have most : x.num * y.den * unit ≤ (2 ^ 53 - 1) * (x.den * y.num * topStep) :=
    calc x.num * y.den * unit = x.num * unit * y.den := Nat.mul_right_comm ..
      _ = unitsOf x.rank * x.den * y.den := by rw [num_mul_unit]
      _ ≤ (2 ^ 53 - 1) * topStep * x.den * y.num :=
          Nat.mul_le_mul (Nat.mul_le_mul_right _ x.units_le) least
      _ = (2 ^ 53 - 1) * (x.den * y.num * topStep) := by ac_rfl
  omega

/-- A whole number that is not too large is rounded up by less than its 2^53rd part. -/
theorem ofNat_units {n : Nat} (some : 0 < n) (small : 2 * (n * unit) < (2 ^ 54 - 1) * topStep) :
    unitsOf (ofNat n).rank * 2 ^ 53 ≤ n * unit * (2 ^ 53 + 1) := by
  obtain ⟨x, made, rank⟩ := @ofFraction_some n 1 false Nat.one_pos (by rwa [Nat.one_mul])
  have error := @unitsOf_rankOfFraction_le n 1 Nat.one_pos some
  rw [Nat.one_mul] at error
  rwa [ofNat, made, Option.getD_some, rank]

/-- The powers of ten up to the 308th are finite, and rounded likewise. -/
theorem powerOfTen_some {k : Nat} (le : k ≤ 308) :
    ∃ x, powerOfTen k = some x ∧ unit ≤ unitsOf x.rank ∧
      unitsOf x.rank * 2 ^ 53 ≤ 10 ^ k * unit * (2 ^ 53 + 1) := by
  have small : ∀ k < 309, 2 * (10 ^ k * unit) < (2 ^ 54 - 1) * (1 * topStep) := by
    decide +kernel
  have one : 1 ≤ 10 ^ k := Nat.pow_pos (by decide)
  obtain ⟨x, made, rank⟩ := ofFraction_some false Nat.one_pos (small k (Nat.lt_succ_of_le le))
  refine ⟨x, ?_, ?_, ?_⟩
  · rw [powerOfTen, if_pos le]
    exact made
  · rw [rank]
    exact unit_le_unitsOf Nat.one_pos one
  · have error := unitsOf_rankOfFraction_le Nat.one_pos one
    rwa [rank, ← Nat.one_mul (unitsOf _)]

end Binary64

end Backchannel.Numeric
