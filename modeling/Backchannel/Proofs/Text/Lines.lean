/-
# Backchannel.Proofs.Text.Lines -- lines and the bytes that they make up

A complete line (`IsLine`) has a line feed at its end and nowhere else.  Bytes that were put
together from complete lines fall into those lines again (`splitLines_flatten_lines`), and
what follows the last of them is a line only if it is not empty.

In the encoding of a text a line feed stands for itself and is no part of another character
(`lineFeed_mem_encode_iff`), so a text of one line is encoded as one line.
-/
import Backchannel.Text.Lines

namespace Backchannel.Text

set_option autoImplicit false

open Backchannel.Text.Utf8 (Bytes encode bytesOf)

/-! ## Complete lines -/

/-- A line feed ends the bytes, and there is no other. -/
def IsLine (line : Bytes) : Prop := ∃ body, line = body ++ [lineFeed] ∧ lineFeed ∉ body

theorem splitLines_cons (b : UInt8) (bytes : Bytes) :
    splitLines (b :: bytes) = addToLines b (splitLines bytes) := rfl

theorem splitLines_body {body : Bytes} (plain : lineFeed ∉ body) (bytes : Bytes) :
    splitLines (body ++ lineFeed :: bytes) = (body ++ [lineFeed]) :: splitLines bytes := by
  induction body with
  | nil => rfl
  | cons b body ih =>
    have other : b ≠ lineFeed := fun same => plain (by simp [same])
    rw [List.cons_append, splitLines_cons, ih fun among => plain (by simp [among]), addToLines,
      if_neg other]
    rfl

/-- The first line of some bytes is cut off behind its line feed. -/
theorem splitLines_line {line : Bytes} (whole : IsLine line) (bytes : Bytes) :
    splitLines (line ++ bytes) = line :: splitLines bytes := by
  obtain ⟨body, rfl, plain⟩ := whole
  rw [List.append_assoc]
  exact splitLines_body plain bytes

theorem splitLines_lines {lines : List Bytes} (whole : ∀ line ∈ lines, IsLine line)
    (bytes : Bytes) : splitLines (lines.flatten ++ bytes) = lines ++ splitLines bytes := by
  induction lines with
  | nil => rfl
  | cons line lines ih =>
    rw [List.flatten_cons, List.append_assoc, splitLines_line (whole line (by simp)),
      ih fun line among => whole line (by simp [among])]
    rfl

/-- Complete lines that were put together fall apart again. -/
theorem splitLines_flatten_lines {lines : List Bytes} (whole : ∀ line ∈ lines, IsLine line) :
    splitLines lines.flatten = lines := by
  have apart := splitLines_lines whole []
  rw [List.append_nil] at apart
  exact apart.trans (List.append_nil lines)

/-- What no line feed ends is one line, if it is anything. -/
theorem splitLines_tail {tail : Bytes} (plain : lineFeed ∉ tail) (some : tail ≠ []) :
    splitLines tail = [tail] := by
  induction tail with
  | nil => exact absurd rfl some
  | cons b tail ih =>
    have other : b ≠ lineFeed := fun same => plain (by simp [same])
    cases tail with
    | nil => exact if_neg other
    | cons c tail =>
      rw [splitLines_cons, ih (fun among => plain (by simp [among])) (by simp), addToLines,
        if_neg other]

/-! ## Any bytes behind which a line ends -/

theorem addToLines_append (b : UInt8) {lines : List Bytes} (some : lines ≠ [])
    (more : List Bytes) : addToLines b (lines ++ more) = addToLines b lines ++ more := by
  cases lines with
  | nil => exact absurd rfl some
  | cons line rest =>
    unfold addToLines
    split <;> rfl

theorem length_addToLines (b : UInt8) {lines : List Bytes} (some : lines ≠ []) :
    (addToLines b lines).length = lines.length + if b = lineFeed then 1 else 0 := by
  cases lines with
  | nil => exact absurd rfl some
  | cons line rest =>
    unfold addToLines
    split <;> rfl

theorem splitLines_ne_nil {bytes : Bytes} (some : bytes ≠ []) : splitLines bytes ≠ [] := by
  intro none
  have whole := splitLines_flatten bytes
  rw [none] at whole
  exact some whole.symm

/-- Behind a line feed the lines begin anew, -/
theorem splitLines_lineFeed (bytes more : Bytes) :
    splitLines (bytes ++ [lineFeed] ++ more) =
      splitLines (bytes ++ [lineFeed]) ++ splitLines more := by
  induction bytes with
  | nil => rfl
  | cons b bytes ih =>
    calc splitLines (b :: bytes ++ [lineFeed] ++ more)
      _ = addToLines b (splitLines (bytes ++ [lineFeed]) ++ splitLines more) := by
        rw [← ih]
        rfl
      _ = addToLines b (splitLines (bytes ++ [lineFeed])) ++ splitLines more :=
        addToLines_append b (splitLines_ne_nil (by simp)) _

/-- and up to it there is one for each line feed. -/
theorem length_splitLines_lineFeed (bytes : Bytes) :
    (splitLines (bytes ++ [lineFeed])).length = bytes.count lineFeed + 1 := by
  induction bytes with
  | nil => rfl
  | cons b bytes ih =>
    rw [List.cons_append, splitLines_cons, length_addToLines b (splitLines_ne_nil (by simp)), ih,
      List.count_cons]
    simp only [beq_iff_eq]
    omega

/-- No line has two line feeds. -/
theorem count_lineFeed_le {bytes line : Bytes} (among : line ∈ splitLines bytes) :
    line.count lineFeed ≤ 1 := by
  induction bytes generalizing line with
  | nil => cases among
  | cons b bytes ih =>
    rw [splitLines_cons] at among
    unfold addToLines at among
    split at among
    · rename_i ends
      rcases List.mem_cons.mp among with rfl | rest
      · simp [ends]
      · exact ih rest
    · rename_i goesOn
      have same (tail : Bytes) : (b :: tail).count lineFeed = tail.count lineFeed :=
        List.count_cons_of_ne goesOn
      split at among
      · rw [List.mem_singleton.mp among, same]
        exact Nat.zero_le 1
      · rename_i first rest found
        rcases List.mem_cons.mp among with rfl | later
        · rw [same]
          exact ih (by rw [found]; exact List.mem_cons_self)
        · exact ih (by rw [found]; exact List.mem_cons_of_mem _ later)

/-! ## Texts -/

theorem lineFeed_mem_utf8EncodeChar {c : Char} (among : lineFeed ∈ String.utf8EncodeChar c) :
    c = '\n' := by
  have low : ∀ {n : Nat}, UInt8.ofNat n = lineFeed → n % 256 = 10 := by
    intro n same
    exact congrArg UInt8.toNat same
  unfold String.utf8EncodeChar at among
  simp only at among
  split at among
  · rename_i small
    have code := low (List.mem_singleton.mp among).symm
    apply Char.ext
    apply UInt32.toNat_inj.mp
    change c.val.toNat = 10
    omega
  · exfalso
    split at among
    · simp only [List.mem_cons, List.not_mem_nil, or_false] at among
      rcases among with same | same <;> have := low same.symm <;> omega
    · split at among
      · simp only [List.mem_cons, List.not_mem_nil, or_false] at among
        rcases among with same | same | same <;> have := low same.symm <;> omega
      · simp only [List.mem_cons, List.not_mem_nil, or_false] at among
        rcases among with same | same | same | same <;> have := low same.symm <;> omega

/-- The line feeds of an encoded text are those of the text. -/
theorem lineFeed_mem_encode_iff {cs : List Char} : lineFeed ∈ encode cs ↔ '\n' ∈ cs := by
  constructor
  · intro among
    obtain ⟨c, listed, part⟩ := List.mem_flatMap.mp among
    exact lineFeed_mem_utf8EncodeChar part ▸ listed
  · intro among
    exact List.mem_flatMap.mpr ⟨'\n', among, by decide⟩

theorem encode_append (cs ds : List Char) : encode (cs ++ ds) = encode cs ++ encode ds :=
  List.flatMap_append

theorem count_lineFeed_encode (cs : List Char) : (encode cs).count lineFeed = cs.count '\n' := by
  induction cs with
  | nil => rfl
  | cons c cs ih =>
    have first : (String.utf8EncodeChar c).count lineFeed = if c = '\n' then 1 else 0 := by
      split
      · rename_i same
        subst same
        decide
      · rename_i other
        exact List.count_eq_zero.mpr fun among => other (lineFeed_mem_utf8EncodeChar among)
    change (String.utf8EncodeChar c ++ encode cs).count lineFeed = _
    rw [List.count_append, first, ih, List.count_cons, Nat.add_comm]
    simp only [beq_iff_eq]

/-- A text of one line is encoded as one. -/
theorem isLine_encode {cs : List Char} (plain : '\n' ∉ cs) : IsLine (encode (cs ++ ['\n'])) := by
  refine ⟨encode cs, ?_, fun among => plain (lineFeed_mem_encode_iff.mp among)⟩
  rw [encode_append]
  rfl

end Backchannel.Text
