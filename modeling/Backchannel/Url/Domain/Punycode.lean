/-
# Backchannel.Url.Domain.Punycode -- labels in ASCII

A label with characters beyond ASCII is written as its ASCII characters, a hyphen,
and digits that tell where the others go.  The others are inserted in the order of
their code points.  Code point and place of an insertion are counted together, by
the steps from one insertion to the next; each count is written in digits of base 36,
the lowest first, where a digit below a threshold is the last.  The threshold follows
a bias that is fitted to the counts seen so far.
-/

namespace Backchannel.Url.Domain.Punycode

set_option autoImplicit false

/-! ## Digits -/

def digit (d : Nat) : Char := Char.ofNat (if d < 26 then 97 + d else 22 + d)

def digitValue? (c : Char) : Option Nat :=
  let n := c.toNat
  if 97 ≤ n ∧ n ≤ 122 then some (n - 97)
  else if 48 ≤ n ∧ n ≤ 57 then some (n - 22)
  else none

/-! ## Counts -/

/-- The threshold of the digit in that place; places are counted in steps of 36. -/
def threshold (bias place : Nat) : Nat := max 1 (min 26 (place - bias))

theorem threshold_pos (bias place : Nat) : 1 ≤ threshold bias place := by
  unfold threshold; omega

/-- The digits of a count. -/
def countDigits (bias place n : Nat) : List Char :=
  let t := threshold bias place
  if n < t then [digit n]
  else digit (t + (n - t) % (36 - t)) :: countDigits bias (place + 36) ((n - t) / (36 - t))
  termination_by n
  decreasing_by
    have := threshold_pos bias place
    have := Nat.div_le_self (n - threshold bias place) (36 - threshold bias place)
    omega

/-- A count from its digits, each worth `weight` times as much as the first, and the rest
of the text. -/
def readCount (bias place weight : Nat) : List Char → Option (Nat × List Char)
  | [] => none
  | c :: rest =>
    match digitValue? c with
    | none => none
    | some d =>
      let t := threshold bias place
      if d < t then some (d * weight, rest)
      else (readCount bias (place + 36) (weight * (36 - t)) rest).map fun r =>
        (d * weight + r.1, r.2)

theorem readCount_shorter {bias place weight : Nat} {cs : List Char} {r : Nat × List Char}
    (h : readCount bias place weight cs = some r) : r.2.length < cs.length := by
  induction cs generalizing place weight r with
  | nil => simp [readCount] at h
  | cons c rest ih =>
    unfold readCount at h
    split at h
    · simp at h
    · simp only at h
      split at h
      · simp only [Option.some.injEq] at h
        subst h
        simp
      · obtain ⟨r', hr, rfl⟩ := Option.map_eq_some_iff.1 h
        have := ih hr
        simp only [List.length_cons]
        omega

/-! ## The bias -/

/-- A count divided until it is small, with the number of divisions. -/
def shrink (n : Nat) : Nat × Nat :=
  if 455 < n then let r := shrink (n / 35); (r.1, r.2 + 1) else (n, 0)
  termination_by n

/-- The bias after a count, when that many characters are in their places. -/
def fitBias (isFirst : Bool) (count placed : Nat) : Nat :=
  let n := if isFirst then count / 700 else count / 2
  let (small, divisions) := shrink (n + n / placed)
  36 * divisions + 36 * small / (small + 38)

def firstBias : Nat := 72

/-! ## Writing -/

/-- The writer's state: the digits so far, the steps since the last insertion, the bias and
how many characters are in their places. -/
structure Writing where
  digits : List Char
  steps : Nat
  bias : Nat
  placed : Nat

/-- Passes over the label once, inserting the characters of code point `n`. -/
def writePoint (isFirst : Nat → Bool) (n : Nat) (w : Writing) (label : List Char) : Writing :=
  label.foldl (fun w c =>
    if c.toNat < n then { w with steps := w.steps + 1 }
    else if c.toNat = n then
      { digits := w.digits ++ countDigits w.bias 36 w.steps
        steps := 0
        bias := fitBias (isFirst w.placed) w.steps (w.placed + 1)
        placed := w.placed + 1 }
    else w) w

/-- The label in ASCII. -/
def encode (label : List Char) : List Char :=
  let ascii := label.filter (·.toNat < 0x80)
  let points := ((label.map Char.toNat).filter (0x80 ≤ ·)).mergeSort.eraseDups
  let start : Writing := ⟨[], 0, firstBias, ascii.length⟩
  let (written, _) := points.foldl (fun (w, next) n =>
    let w := { w with steps := w.steps + (n - next) * (w.placed + 1) }
    let w := writePoint (· == ascii.length) n w label
    ({ w with steps := w.steps + 1 }, n + 1)) (start, 0x80)
  ascii ++ (if ascii.isEmpty then [] else ['-']) ++ written.digits

/-! ## Reading -/

/-- Inserts the characters that the digits tell; `point` and `index` are where the last
insertion ended. -/
def insertAll (bias point index : Nat) (isFirst : Bool) (label : List Char)
    (digits : List Char) : Option (List Char) :=
  match digits with
  | [] => some label
  | c :: rest =>
    match _h : readCount bias 36 1 (c :: rest) with
    | none => none
    | some (count, left) =>
      let placed := label.length + 1
      let n := point + (index + count) / placed
      let i := (index + count) % placed
      if n.isValidChar then
        insertAll (fitBias isFirst count placed) n (i + 1) false
          (label.take i ++ Char.ofNat n :: label.drop i) left
      else none
  termination_by digits.length
  decreasing_by exact readCount_shorter _h

/-- The ASCII characters of a label and its digits: what stands before and behind the last
hyphen.  A hyphen with nothing before it ends no ASCII characters, so it counts as a digit. -/
def sides (text : List Char) : List Char × List Char :=
  let behind := (text.reverse.takeWhile (· != '-')).reverse
  let ascii := (text.take (text.length - behind.length)).dropLast
  if ascii.isEmpty then ([], text) else (ascii, behind)

/-- The label that a text in ASCII tells. -/
def decode? (text : List Char) : Option (List Char) :=
  let (ascii, digits) := sides text
  if ascii.all (·.toNat < 0x80) then insertAll firstBias 0x80 0 true ascii digits else none

end Backchannel.Url.Domain.Punycode
