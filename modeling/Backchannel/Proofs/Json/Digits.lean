/-
# Backchannel.Proofs.Json.Digits -- which digits are the text of a number

Digits with a point among them, or with an exponent behind them, are read as a word times a
power of ten, with a rounding at each step.  That fails only where it leaves the finite
numbers: up to `safe` there is room for all the roundings (`scale_some`).  What is read then
depends on the text alone, and not on what follows it (`NumberText`).
-/
import Backchannel.Proofs.Json.Written
import Backchannel.Proofs.Numeric.Rounding

namespace Backchannel.Json

set_option autoImplicit false

open Backchannel.Numeric

/-! ## Scaling -/

/-- Three steps below the end of the finite numbers. -/
def safe : Nat := (2 ^ 53 - 3) * twoTo 971

theorem scale_neg (n : Nat) {e : Int} (below : e < 0) : ∃ x, scale n e = some x := by
  unfold scale
  rw [if_neg (Int.not_le.mpr below)]
  rcases scaleDown 4 (Binary64.ofNat n) e.natAbs with ⟨x, k⟩
  dsimp only
  split
  · exact ⟨x, rfl⟩
  · by_cases le : k ≤ 308
    · obtain ⟨p, made, one, -⟩ := Binary64.powerOfTen_some le
      rw [made]
      exact Binary64.div_some x p one
    · have none : Binary64.powerOfTen k = none := if_neg le
      rw [none]
      exact ⟨x, rfl⟩

/-- Where a product is safe, there is room for the errors of its factors. -/
theorem mul_some_of_safe {n k : Nat} {x p : Binary64} (le : n * k ≤ safe)
    (hx : unitsOf x.rank * 2 ^ 53 ≤ n * unit * (2 ^ 53 + 1))
    (hp : unitsOf p.rank * 2 ^ 53 ≤ k * unit * (2 ^ 53 + 1)) : ∃ z, x.mul p = some z := by
  apply Binary64.mul_some
  have room : 2 * safe * unit * (2 ^ 53 + 1) * (2 ^ 53 + 1) <
      (2 ^ 54 - 1) * topStep * 2 ^ 53 * 2 ^ 53 := by
    decide +kernel
  apply Nat.lt_of_mul_lt_mul_right (a := 2 ^ 53 * 2 ^ 53)
  generalize 2 ^ 53 + 1 = up at hx hp room
  calc 2 * (unitsOf x.rank * unitsOf p.rank) * (2 ^ 53 * 2 ^ 53)
      = 2 * ((unitsOf x.rank * 2 ^ 53) * (unitsOf p.rank * 2 ^ 53)) := by ac_rfl
    _ ≤ 2 * ((n * unit * up) * (k * unit * up)) :=
        Nat.mul_le_mul_left 2 (Nat.mul_le_mul hx hp)
    _ = 2 * (n * k) * unit * up * up * unit := by ac_rfl
    _ ≤ 2 * safe * unit * up * up * unit := by
        exact Nat.mul_le_mul_right _ (Nat.mul_le_mul_right _ (Nat.mul_le_mul_right _
          (Nat.mul_le_mul_right _ (Nat.mul_le_mul_left 2 le))))
    _ < (2 ^ 54 - 1) * topStep * 2 ^ 53 * 2 ^ 53 * unit :=
        Nat.mul_lt_mul_of_pos_right room unit_pos
    _ = (2 ^ 54 - 1) * (unit * topStep) * (2 ^ 53 * 2 ^ 53) := by ac_rfl

theorem safe_lt : ∃ k, k = 309 ∧ safe < 10 ^ k := ⟨309, rfl, by decide +kernel⟩

theorem exponent_le {n e : Nat} (some : 0 < n) (le : n * 10 ^ e ≤ safe) : e ≤ 308 := by
  obtain ⟨k, size, large⟩ := safe_lt
  apply Nat.not_lt.mp
  intro beyond
  have power : 10 ^ k ≤ 10 ^ e := Nat.pow_le_pow_right (by decide) (by omega)
  have one : 10 ^ e ≤ n * 10 ^ e := Nat.le_mul_of_pos_left _ some
  omega

/-- What is safe can be read. -/
theorem scale_of_le {n e : Nat} (le : n * 10 ^ e ≤ safe) : ∃ x, scale n e = some x := by
  unfold scale
  rw [if_pos (Int.natCast_nonneg e), Int.toNat_natCast]
  rcases Nat.eq_zero_or_pos n with rfl | some
  · have zero : (Binary64.ofNat 0).rank = 0 := by decide
    cases Binary64.powerOfTen e with
    | none => exact ⟨_, if_pos (by rw [Binary64.isZero, zero]; rfl)⟩
    | some p =>
      have nothing : unitsOf (Binary64.ofNat 0).rank = 0 := by rw [zero]; rfl
      refine Binary64.mul_some _ p ?_
      rw [nothing, Nat.zero_mul]
      decide +kernel
  · obtain ⟨p, made, -, hp⟩ := Binary64.powerOfTen_some (exponent_le some le)
    rw [made]
    refine mul_some_of_safe le (Binary64.ofNat_units some ?_) hp
    have small : n ≤ safe :=
      Nat.le_trans (Nat.le_mul_of_pos_right _ (Nat.pow_pos (by decide))) le
    have room : 2 * (safe * unit) < (2 ^ 54 - 1) * topStep := by decide +kernel
    have scaled := Nat.mul_le_mul_right unit small
    omega

/-- What a sign, digits and an exponent are read as. -/
theorem scale_some {n : Nat} {e : Int}
    (le : n * 10 ^ e.toNat ≤ safe * 10 ^ (-e).toNat) : ∃ x, scale n e = some x := by
  rcases Int.lt_or_le e 0 with below | above
  · exact scale_neg n below
  · obtain ⟨e, rfl⟩ := Int.eq_ofNat_of_zero_le above
    have one : (-(e : Int)).toNat = 0 := by omega
    rw [one, Nat.pow_zero, Nat.mul_one, Int.toNat_natCast] at le
    exact scale_of_le le

/-! ## Digits -/

variable {n : Nat} {ds : List Char}

theorem digitValue_le {c : Char} (digit : isDigit c = true) : digitValue c ≤ 9 := by
  simp only [isDigit, Bool.and_eq_true, decide_eq_true_eq, Char.le_def] at digit
  have high : c.toNat ≤ '9'.toNat := digit.2
  simp only [digitValue]
  simp at high ⊢
  omega

theorem ofDigitChars_lt (digits : ∀ c ∈ ds, isDigit c = true) :
    Nat.ofDigitChars 10 ds n < (n + 1) * 10 ^ ds.length := by
  induction ds generalizing n with
  | nil => simp
  | cons d ds ih =>
    have small : digitValue d ≤ 9 := digitValue_le (digits d (by simp))
    have rest := @ih (10 * n + digitValue d) fun c among => digits c (by simp [among])
    have room : (10 * n + digitValue d + 1) * 10 ^ ds.length ≤
        (n + 1) * 10 * 10 ^ ds.length := Nat.mul_le_mul_right _ (by omega)
    rw [Nat.ofDigitChars_cons, List.length_cons, Nat.pow_succ, Nat.mul_comm _ 10, ← Nat.mul_assoc]
    exact Nat.lt_of_lt_of_le rest room

theorem mul_pow_le_ofDigitChars (ds : List Char) (n : Nat) :
    n * 10 ^ ds.length ≤ Nat.ofDigitChars 10 ds n := by
  induction ds generalizing n with
  | nil => simp
  | cons d ds ih =>
    have first : n * 10 * 10 ^ ds.length ≤ (10 * n + digitValue d) * 10 ^ ds.length :=
      Nat.mul_le_mul_right _ (by omega)
    rw [Nat.ofDigitChars_cons, List.length_cons, Nat.pow_succ, Nat.mul_comm _ 10, ← Nat.mul_assoc]
    exact Nat.le_trans first (ih _)

/-- Whatever digits fit a word, the number that they make with zeros for the others is not
larger than that of all digits. -/
theorem absorb_le (ds : List Char) (n : Nat) :
    (absorb n ds).1 * 10 ^ (absorb n ds).2.length ≤ Nat.ofDigitChars 10 ds n ∧
      (absorb n ds).2.length ≤ ds.length ∧ (n ≤ wordMax → (absorb n ds).1 ≤ wordMax) := by
  induction ds generalizing n with
  | nil => simp [absorb]
  | cons d ds ih =>
    rw [absorb]
    split
    · exact ⟨mul_pow_le_ofDigitChars (d :: ds) n, Nat.le_refl _, id⟩
    · rename_i fits
      obtain ⟨value, length, word⟩ := ih (n * 10 + digitValue d)
      refine ⟨?_, Nat.le_succ_of_le length, fun _ => word (Nat.not_lt.mp fits)⟩
      rw [Nat.ofDigitChars_cons, Nat.mul_comm 10]
      exact value

/-- Digits that fit a word are all taken. -/
theorem absorb_of_length (digits : ∀ c ∈ ds, isDigit c = true) (short : ds.length ≤ 19) :
    (absorb 0 ds).2 = [] := by
  have value := @ofDigitChars_lt 0 ds digits
  have power : 10 ^ ds.length ≤ 10 ^ 19 := Nat.pow_le_pow_right (by decide) short
  have room : 10 ^ 19 ≤ wordMax := by decide
  rw [absorb_ofDigitChars (by omega)]

/-! ## Texts of numbers -/

variable {negative : Bool} {rest : List Char}

/-- Text that starts with a digit and is read as one number, whatever ends it. -/
structure NumberText (negative : Bool) (written : List Char) : Prop where
  start : ∃ c cs, written = c :: cs ∧ isDigit c = true
  reads : ∃ m, ∀ rest, EndsNumber rest → readNumber negative (written ++ rest) = .ok (m, rest)

theorem finishReal_ok {n : Nat} {e : Int} (scaled : ∃ x, scale n e = some x) :
    ∃ m, ∀ s, finishReal negative n e s = .ok (m, s) := by
  obtain ⟨x, scaled⟩ := scaled
  refine ⟨.real (if negative then x.neg else x), fun s => ?_⟩
  rw [finishReal, scaled]

/-- Digits that a number may start with: no zero in front of others, and not too many. -/
structure Leading (ws : List Char) : Prop where
  front : ws = ['0'] ∨ ∃ d ds, ws = d :: ds ∧ d ≠ '0'
  digits : ∀ c ∈ ws, isDigit c = true
  short : ws.length ≤ 19

theorem Leading.start {ws : List Char} (leading : Leading ws) (s : List Char) :
    ∃ c cs, ws ++ s = c :: cs ∧ isDigit c = true := by
  obtain ⟨rfl | ⟨d, ds, rfl, -⟩, digits, -⟩ := leading
  · exact ⟨'0', s, rfl, by decide⟩
  · exact ⟨d, ds ++ s, rfl, digits d (by simp)⟩

theorem Leading.digit {c : Char} (digit : isDigit c = true) : Leading [c] := by
  refine ⟨?_, by simpa using digit, Nat.le_add_left 1 18⟩
  by_cases zero : c = '0'
  · exact .inl (by rw [zero])
  · exact .inr ⟨c, [], rfl, zero⟩

/-- A number is read up to a mark that is no digit. -/
theorem readNumber_mark {ws s : List Char} {mark : Char} (leading : Leading ws)
    (ends : isDigit mark = false) :
    readNumber negative (ws ++ mark :: s) =
      if mark = '.' then readFraction negative (absorb 0 ws).1 0 s
      else if isExponentMark mark then readExponent negative (absorb 0 ws).1 0 s
      else .ok (wholeNumber negative (absorb 0 ws).1, mark :: s) := by
  obtain ⟨front, digits, short⟩ := leading
  obtain ⟨take, drop⟩ := @span_digits ws (mark :: s) digits (by rintro c s ⟨⟩; exact ends)
  have all := absorb_of_length digits short
  obtain ⟨d, ds, rfl, plain⟩ : ∃ d ds, ws = d :: ds ∧
      ¬ (d = '0' ∧ (ds ++ mark :: s).head?.any isDigit = true) := by
    rcases front with rfl | ⟨d, ds, rfl, some⟩
    · exact ⟨'0', [], rfl, by simp [ends]⟩
    · exact ⟨d, ds, rfl, fun both => some both.1⟩
  have digit : isDigit d = true := digits d (by simp)
  rw [List.cons_append] at take drop ⊢
  simp only [readNumber, digit, Bool.not_true, Bool.false_eq_true, if_false, if_neg plain, take,
    drop, all]
  by_cases point : mark = '.'
  · subst point
    rfl
  · rw [if_neg point]
    split
    · rename_i same
      exact absurd (List.cons.inj same).1 point
    · rename_i same
      cases same
      rfl
    · rename_i same
      cases same

/-- With a point in its place, what is written is the text of a number. -/
theorem NumberText.positional {ws fs : List Char} (leading : Leading ws) (some : fs ≠ [])
    (digits : ∀ c ∈ fs, isDigit c = true) : NumberText negative (ws ++ '.' :: fs) := by
  obtain ⟨-, length, word⟩ := absorb_le fs (absorb 0 ws).1
  have small : (absorb 0 ws).1 ≤ wordMax := (absorb_le ws 0).2.2 (Nat.zero_le _)
  have room : wordMax ≤ safe := by decide +kernel
  obtain ⟨m, finished⟩ : ∃ m, ∀ s, finishReal negative (absorb (absorb 0 ws).1 fs).1
      (0 - ((fs.length - (absorb (absorb 0 ws).1 fs).2.length : Nat) : Int)) s = .ok (m, s) := by
    apply finishReal_ok
    apply scale_some
    rw [show (0 - ((fs.length - (absorb (absorb 0 ws).1 fs).2.length : Nat) : Int)).toNat = 0 by
      omega, Nat.pow_zero, Nat.mul_one]
    exact Nat.le_trans (Nat.le_trans (word small) room)
      (Nat.le_mul_of_pos_right _ (Nat.pow_pos (by decide)))
  refine ⟨leading.start _, m, fun rest ends => ?_⟩
  obtain ⟨take, drop⟩ := span_digits digits fun c s front => (ends c s front).1
  rw [List.append_assoc, List.cons_append, readNumber_mark leading (by decide), if_pos rfl]
  simp only [readFraction, take, drop, List.isEmpty_iff, some, if_false]
  cases rest with
  | nil => exact finished []
  | cons c s =>
    dsimp only
    rw [if_neg (by rw [(ends c s rfl).2.2]; exact Bool.false_ne_true)]
    exact finished (c :: s)

/-! ## Exponents -/

theorem absorbExponent_ofDigitChars {ds : List Char} {n : Nat}
    (fits : Nat.ofDigitChars 10 ds n ≤ exponentMax) :
    absorbExponent n ds = (some (Nat.ofDigitChars 10 ds n), []) := by
  induction ds generalizing n with
  | nil => simp [absorbExponent]
  | cons d ds ih =>
    have step : 10 * n + (d.toNat - '0'.toNat) = n * 10 + digitValue d := by
      simp only [digitValue]; omega
    rw [Nat.ofDigitChars_cons, step] at fits ⊢
    have small : ¬ exponentMax < n * 10 + digitValue d := by
      have := le_ofDigitChars ds (n * 10 + digitValue d)
      omega
    rw [absorbExponent, if_neg small, ih fits]

/-- A written exponent is read. -/
theorem readExponent_text {n : Nat} {base e : Int} (small : e.natAbs ≤ exponentMax)
    (ends : EndsNumber rest) :
    readExponent negative n base (exponentText e ++ rest) =
      finishReal negative n (base + e) rest := by
  have digits : ∀ c ∈ digitsOf e.natAbs, isDigit c = true :=
    fun c among => isDigit_of_mem_digitsOf among
  obtain ⟨take, drop⟩ := span_digits digits fun c s front => (ends c s front).1
  have own : Nat.ofDigitChars 10 (digitsOf e.natAbs) 0 = e.natAbs := Nat.ofDigitChars_ten_toDigits
  have taken := absorbExponent_ofDigitChars (Nat.le_trans (Nat.le_of_eq own) small)
  rw [own] at taken
  obtain ⟨d, ds, written⟩ : ∃ d ds, digitsOf e.natAbs = d :: ds := by
    cases written : digitsOf e.natAbs with
    | nil => exact absurd written Nat.toDigits_ne_nil
    | cons d ds => exact ⟨d, ds, rfl⟩
  have digit : isDigit d = true := digits d (by simp [written])
  rw [written] at take drop taken
  rw [List.cons_append] at take drop
  rw [exponentText, written]
  split
  · rename_i below
    have same : base - (e.natAbs : Int) = base + e := by omega
    generalize e.natAbs = k at taken same ⊢
    simp [readExponent, digit, take, drop, taken, same]
  · rename_i above
    have same : base + (e.natAbs : Int) = base + e := by omega
    generalize e.natAbs = k at taken same ⊢
    simp [readExponent, digit, take, drop, taken, same]

/-- The first digit is always taken. -/
theorem absorb_cons {c : Char} (digit : isDigit c = true) (ds : List Char) :
    absorb 0 (c :: ds) = absorb (digitValue c) ds := by
  have small := digitValue_le digit
  have word : 9 ≤ wordMax := by decide
  rw [absorb, Nat.zero_mul, Nat.zero_add, if_neg (by omega)]

/-- One digit, the others behind a point if there are others, and an exponent are the text of
a number, if what is taken of the digits can be scaled. -/
theorem NumberText.scientific {c : Char} {fs : List Char} {e : Int} (digit : isDigit c = true)
    (digits : ∀ d ∈ fs, isDigit d = true) (small : e.natAbs ≤ exponentMax)
    (scaled : ∃ x, scale (absorb 0 (c :: fs)).1
      (e - ((fs.length - (absorb 0 (c :: fs)).2.length : Nat) : Int)) = some x) :
    NumberText negative ([c] ++ ((if fs.isEmpty then [] else '.' :: fs) ++
      'e' :: exponentText e)) := by
  have leading := Leading.digit digit
  rw [absorb_cons digit] at scaled
  obtain ⟨m, finished⟩ := @finishReal_ok negative _ _ scaled
  refine ⟨leading.start _, m, fun rest ends => ?_⟩
  have first : absorb 0 [c] = (digitValue c, []) := absorb_cons digit []
  rw [← finished]
  cases fs with
  | nil =>
    have shift : (0 : Int) + e = e - ((0 : Nat) : Int) := by omega
    change readNumber negative ([c] ++ 'e' :: (exponentText e ++ rest)) = _
    rw [readNumber_mark leading (by decide), first, if_neg (by decide), if_pos (by decide),
      readExponent_text small ends, shift]
    rfl
  | cons f fs =>
    obtain ⟨take, drop⟩ := @span_digits (f :: fs) ('e' :: (exponentText e ++ rest)) digits
      (by rintro _ _ ⟨⟩; decide)
    have shown : [c] ++ ('.' :: (f :: fs) ++ 'e' :: exponentText e) ++ rest =
        [c] ++ '.' :: (f :: fs ++ 'e' :: (exponentText e ++ rest)) := by simp
    change readNumber negative ([c] ++ ('.' :: (f :: fs) ++ 'e' :: exponentText e) ++ rest) = _
    rw [shown, readNumber_mark leading (by decide), if_pos rfl, first]
    simp only [readFraction, take, drop, List.isEmpty_cons, Bool.false_eq_true, if_false,
      show isExponentMark 'e' = true by decide, if_true, readExponent_text small ends]
    congr 1
    omega

end Backchannel.Json
