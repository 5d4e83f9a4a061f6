/-
# Backchannel.Proofs.Json.OneLine -- written values have no line feed

The printer puts no blanks between the parts of a value, escapes every line feed inside a
text and writes numbers with digits, signs, points and exponent marks alone.  So a value,
whatever texts it holds, is written on one line.
-/
import Backchannel.Json.Printer

namespace Backchannel.Json

set_option autoImplicit false

open Backchannel.Numeric

/-- No line feed is among the characters. -/
def OneLine (cs : List Char) : Prop := '\n' ∉ cs

namespace OneLine

variable {cs ds : List Char}

theorem nil : OneLine [] := List.not_mem_nil

theorem cons {c : Char} (other : c ≠ '\n') (rest : OneLine cs) : OneLine (c :: cs) := by
  intro among
  rcases List.mem_cons.mp among with same | among
  · exact other same.symm
  · exact rest among

theorem append (front : OneLine cs) (rest : OneLine ds) : OneLine (cs ++ ds) := by
  intro among
  rcases List.mem_append.mp among with among | among
  · exact front among
  · exact rest among

/-- Characters that are all among those of a line are on one line as well. -/
theorem of_subset (line : OneLine cs) (part : ∀ c ∈ ds, c ∈ cs) : OneLine ds :=
  fun among => line (part _ among)

theorem digits (n : Nat) : OneLine (digitsOf n) := by
  intro among
  have digit := Nat.isDigit_of_mem_toDigits (by decide) (by decide) among
  revert digit
  decide

theorem zeros (n : Nat) : OneLine (List.replicate n '0') := by
  intro among
  exact absurd (List.eq_of_mem_replicate among) (by decide)

theorem intText (i : Int) : OneLine (intText i) := by
  unfold Numeric.intText
  split
  · exact cons (by decide) (digits _)
  · exact digits _

theorem exponentText (e : Int) : OneLine (exponentText e) := by
  unfold Numeric.exponentText
  split
  · exact cons (by decide) (digits _)
  · exact cons (by decide) (digits _)

/-- In whichever layout a decimal is written. -/
theorem layout (l : Layout) (d : Decimal) : OneLine (l.write d) := by
  have all := digits d.digits
  have front : ∀ n, OneLine ((digitsOf d.digits).take n) := fun n =>
    all.of_subset fun _ among => List.mem_of_mem_take among
  have behind : ∀ n, OneLine ((digitsOf d.digits).drop n) := fun n =>
    all.of_subset fun _ among => List.mem_of_mem_drop among
  unfold Layout.write
  simp only
  split
  · split
    · exact (all.append (zeros _)).append (cons (by decide) (cons (by decide) nil))
    · split
      · exact (front _).append (cons (by decide) (behind _))
      · exact cons (by decide) (cons (by decide) ((zeros _).append all))
  · refine ((front 1).append ?_).append (cons (by decide) (exponentText _))
    split
    · exact nil
    · exact cons (by decide) (behind 1)

theorem number (n : Number) : OneLine n.chars := by
  cases n with
  | whole i fits => exact intText i
  | real x =>
    refine append ?_ (layout realLayout _)
    split
    · exact cons (by decide) nil
    · exact nil

/-! ## Texts -/

theorem hexDigit_ne : ∀ n < 16, hexDigit n ≠ '\n' := by
  decide

/-- A line feed is written with a backslash and a letter, and no other escape has one. -/
theorem escape (c : Char) : OneLine (escape c) := by
  unfold Json.escape
  split
  · exact cons (by decide) (cons (by decide) nil)
  split
  · exact cons (by decide) (cons (by decide) nil)
  split
  · exact cons (by decide) (cons (by decide) nil)
  split
  · exact cons (by decide) (cons (by decide) nil)
  split
  · exact cons (by decide) (cons (by decide) nil)
  split
  · exact cons (by decide) (cons (by decide) nil)
  split
  · exact cons (by decide) (cons (by decide) nil)
  split
  · have digits : OneLine [hexDigit (c.toNat / 16), hexDigit (c.toNat % 16)] :=
      cons (hexDigit_ne _ (by omega)) (cons (hexDigit_ne _ (by omega)) nil)
    exact cons (by decide) (cons (by decide) (cons (by decide) (cons (by decide) digits)))
  · rename_i lineFeed _ _ _
    exact cons lineFeed nil

theorem writeChars (s : List Char) (rest : OneLine cs) : OneLine (writeChars s cs) := by
  induction s with
  | nil => exact cons (by decide) rest
  | cons c s ih => exact (escape c).append ih

theorem writeText (s : String) (rest : OneLine cs) : OneLine (writeText s cs) :=
  cons (by decide) (writeChars s.toList rest)

end OneLine

/-! ## Values -/

namespace Value

mutual

/-- A value adds no line feed to what follows it. -/
theorem write_oneLine : (v : Value) → {rest : List Char} → OneLine rest → OneLine (v.write rest)
  | .null, _, line =>
    .cons (by decide) (.cons (by decide) (.cons (by decide) (.cons (by decide) line)))
  | .bool true, _, line =>
    .cons (by decide) (.cons (by decide) (.cons (by decide) (.cons (by decide) line)))
  | .bool false, _, line =>
    .cons (by decide) (.cons (by decide) (.cons (by decide) (.cons (by decide)
      (.cons (by decide) line))))
  | .number n, _, line => (OneLine.number n).append line
  | .text s, _, line => .writeText s line
  | .list [], _, line => .cons (by decide) (.cons (by decide) line)
  | .list (v :: vs), _, line => .cons (by decide) (write_oneLine v (writeItems_oneLine vs line))
  | .object [], _, line => .cons (by decide) (.cons (by decide) line)
  | .object ((k, v) :: ms), _, line =>
    .cons (by decide) (.writeText k (.cons (by decide)
      (write_oneLine v (writeMembers_oneLine ms line))))

theorem writeItems_oneLine : (vs : List Value) → {rest : List Char} → OneLine rest →
    OneLine (writeItems vs rest)
  | [], _, line => .cons (by decide) line
  | v :: vs, _, line => .cons (by decide) (write_oneLine v (writeItems_oneLine vs line))

theorem writeMembers_oneLine : (ms : List (String × Value)) → {rest : List Char} → OneLine rest →
    OneLine (writeMembers ms rest)
  | [], _, line => .cons (by decide) line
  | (k, v) :: ms, _, line =>
    .cons (by decide) (.writeText k (.cons (by decide)
      (write_oneLine v (writeMembers_oneLine ms line))))

end

end Value

end Backchannel.Json
