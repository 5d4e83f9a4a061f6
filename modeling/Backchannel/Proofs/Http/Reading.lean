/-
# Backchannel.Proofs.Http.Reading -- one pull from a body

A body is read as lines.  Which lines there are depends on its bytes and on its end, not on how
the bytes were cut into chunks: the complete ones, and what is left behind them once the body
has come to a clean end (`linesIn`).  What the lines come to, up to the first result that is no
item, is what a caller is told (`reading`).

At each point of a pull the bytes that are still to be read are those of the buffer and of the
chunks behind it (`Remains`).  One turn of `Replies.read` dispatches the first of their lines or
takes a chunk over as it is.  So a pull brings the first result of what remains and leaves the
others, or it has to wait (`read_brings`).
-/
import Backchannel.Proofs.Supply
import Backchannel.Proofs.Text.Lines

namespace Backchannel.Http

set_option autoImplicit false

open Backchannel.Json (Value)
open Backchannel.Text (IsLine lineFeed splitLines)
open Backchannel.Text.Utf8 (Bytes)

/-! ## The first line -/

theorem takeLine_cons (b : UInt8) (bytes : Bytes) :
    takeLine (b :: bytes) =
      if b = lineFeed then some ([b], bytes)
      else (takeLine bytes).map fun parts => (b :: parts.1, parts.2) := by
  by_cases ends : b = lineFeed
  · simp [takeLine, ends]
  · rw [if_neg ends]
    simp only [takeLine, List.dropWhile_cons, List.takeWhile_cons, ne_eq, ends, not_false_eq_true,
      decide_true, if_true]
    cases bytes.dropWhile (· ≠ lineFeed) <;> rfl

/-- A line that is taken is complete, and what is left follows it. -/
theorem takeLine_some {bytes line rest : Bytes} (taken : takeLine bytes = some (line, rest)) :
    bytes = line ++ rest ∧ IsLine line := by
  induction bytes generalizing line with
  | nil => cases taken
  | cons b bytes ih =>
    rw [takeLine_cons] at taken
    split at taken
    · rename_i ends
      cases taken
      exact ⟨rfl, [], by rw [ends]; rfl, by simp⟩
    · rename_i goesOn
      obtain ⟨⟨tail, left⟩, later, same⟩ := Option.map_eq_some_iff.mp taken
      cases same
      obtain ⟨rfl, body, rfl, plain⟩ := ih later
      refine ⟨rfl, b :: body, rfl, fun among => ?_⟩
      rcases List.mem_cons.mp among with same | inside
      · exact goesOn same.symm
      · exact plain inside

theorem takeLine_none {bytes : Bytes} (none : takeLine bytes = none) : lineFeed ∉ bytes := by
  induction bytes with
  | nil => simp
  | cons b bytes ih =>
    rw [takeLine_cons] at none
    split at none
    · cases none
    · rename_i goesOn
      intro among
      rcases List.mem_cons.mp among with same | inside
      · exact goesOn same.symm
      · exact ih (Option.map_eq_none_iff.mp none) inside

/-! ## The lines of a body -/

/-- The lines that can be read of some bytes of a body: those that are complete, and at a clean
end also what is left. -/
def linesIn : Option BodyEnd → Bytes → List Bytes
  | some .complete, bytes => splitLines bytes
  | _, bytes => (splitLines bytes).filter fun line => lineFeed ∈ line

theorem linesIn_nil (ending : Option BodyEnd) : linesIn ending [] = [] := by
  rcases ending with _ | _ | _ <;> rfl

theorem linesIn_line {line : Bytes} (whole : IsLine line) (ending : Option BodyEnd)
    (bytes : Bytes) : linesIn ending (line ++ bytes) = line :: linesIn ending bytes := by
  have ends : decide (lineFeed ∈ line) = true := by
    obtain ⟨body, rfl, -⟩ := whole
    simp
  rcases ending with _ | _ | _
  · exact (congrArg _ (Text.splitLines_line whole bytes)).trans (List.filter_cons_of_pos ends)
  · exact Text.splitLines_line whole bytes
  · exact (congrArg _ (Text.splitLines_line whole bytes)).trans (List.filter_cons_of_pos ends)

/-- What no line feed ends is a line only at a clean end. -/
theorem linesIn_tail {tail : Bytes} (plain : lineFeed ∉ tail) (ending : Option BodyEnd) :
    linesIn ending tail = if ending = some .complete ∧ tail ≠ [] then [tail] else [] := by
  by_cases empty : tail = []
  · rw [empty, linesIn_nil, if_neg fun both => both.2 rfl]
  · have alone := Text.splitLines_tail plain empty
    rcases ending with _ | _ | _ <;> simp [linesIn, alone, plain, empty]

/-- Bytes that end with no line feed but those of some lines are read as these lines. -/
theorem linesIn_lines {lines : List Bytes} (whole : ∀ line ∈ lines, IsLine line)
    (ending : Option BodyEnd) (tail : Bytes) :
    linesIn ending (lines.flatten ++ tail) = lines ++ linesIn ending tail := by
  induction lines with
  | nil => rfl
  | cons line lines ih =>
    rw [List.flatten_cons, List.append_assoc, linesIn_line (whole line (by simp)),
      ih fun line among => whole line (by simp [among])]
    rfl

/-! ## What a caller is told -/

/-- What the lines of a body come to for the request. -/
def resultsOf (id : RequestId) (lines : List Bytes) : List (Pulled Value) :=
  lines.filterMap fun line => (LineContent.ofLine line).pulled? id

/-- What the end of a body comes to. -/
def endOf (id : RequestId) : BodyEnd → Pulled Value
  | .complete => .finished
  | .broken => .failed (.connectionClosed (.exchange id .brokenBody))

/-- What some bytes of a body hold, behind which there is that end or nothing yet. -/
def holds (id : RequestId) (ending : Option BodyEnd) (bytes : Bytes) : List (Pulled Value) :=
  untilOver (resultsOf id (linesIn ending bytes) ++ (ending.map (endOf id)).toList)

/-- What is told of a whole body. -/
def reading (id : RequestId) (how : BodyEnd) (body : Bytes) : List (Pulled Value) :=
  holds id (some how) body

section

variable {id : RequestId} {line : Bytes} {ending : Option BodyEnd} {got : Pulled Value}

theorem endOf_isOver (id : RequestId) (how : BodyEnd) : (endOf id how).isOver = true := by
  cases how <;> rfl

theorem holds_nil (id : RequestId) (ending : Option BodyEnd) :
    holds id ending [] = (ending.map (endOf id)).toList := by
  rw [holds, linesIn_nil]
  cases ending with
  | none => rfl
  | some how => exact untilOver_of_over (endOf_isOver id how) []

theorem holds_none (whole : IsLine line) (none : (LineContent.ofLine line).pulled? id = none)
    (bytes : Bytes) : holds id ending (line ++ bytes) = holds id ending bytes := by
  simp only [holds, linesIn_line whole, resultsOf, List.filterMap_cons, none]

theorem holds_over (whole : IsLine line) (some : (LineContent.ofLine line).pulled? id = some got)
    (ends : got.isOver = true) (bytes : Bytes) : holds id ending (line ++ bytes) = [got] := by
  simp only [holds, linesIn_line whole, resultsOf, List.filterMap_cons, some, List.cons_append,
    untilOver_of_over ends]

theorem holds_item (whole : IsLine line) (some : (LineContent.ofLine line).pulled? id = some got)
    (ends : got.isOver = false) (bytes : Bytes) :
    holds id ending (line ++ bytes) = got :: holds id ending bytes := by
  simp only [holds, linesIn_line whole, resultsOf, List.filterMap_cons, some, List.cons_append,
    untilOver_of_item ends]

/-- Without a complete line there is only the end, and at a clean one what is left. -/
theorem holds_tail {tail : Bytes} (plain : lineFeed ∉ tail) (id : RequestId)
    (ending : Option BodyEnd) :
    holds id ending tail = untilOver
      ((if ending = some .complete ∧ tail ≠ [] then (LineContent.ofLine tail).pulled? id
        else none).toList ++ (ending.map (endOf id)).toList) := by
  rw [holds, linesIn_tail plain]
  split
  · cases pulled : (LineContent.ofLine tail).pulled? id <;>
      simp only [resultsOf, List.filterMap_cons, List.filterMap_nil, pulled, Option.toList_none,
        Option.toList_some]
  · rfl

end

/-! ## One pull -/

/-- The bytes of the body that are still to be read for a request, behind which there is that
end or nothing yet. -/
structure Remains (id : RequestId) (ending : Option BodyEnd) (r : Replies) (left : Bytes) :
    Prop where
  own : r.id = id
  waits : r.done = false
  bytes : left = r.buffer ++ r.arrived.chunks.flatten
  ends : r.arrived.ending = ending
  phase : r.phase = .reading ∨ (r.phase = .drained ∧ left = [] ∧ ending = some .complete) ∨
    (r.phase = .awaiting false ∧
      ∃ status, r.arrived.head = some (.ok status) ∧ status.isSuccess = true)

/-- What may still come of a body, where that has come of its end. -/
def Later (ending : Option BodyEnd) (more : Bytes) (final : Option BodyEnd) : Prop :=
  ending = none ∨ more = [] ∧ final = ending

theorem Later.nothing {how : BodyEnd} {more : Bytes} {final : Option BodyEnd}
    (later : Later (some how) more final) : more = [] ∧ final = some how :=
  later.resolve_left nofun

/-- What a pull makes of the bytes that are still to be read, whatever may come behind them. -/
inductive Brings (id : RequestId) (ending : Option BodyEnd) (left : Bytes) :
    Progress × Replies → Prop where
  /-- An item, and the others are still to be read. -/
  | item {got : Pulled Value} {r : Replies} {rest : Bytes} (goesOn : got.isOver = false)
    (remains : Remains id ending r rest)
    (first : ∀ more final, Later ending more final →
      holds id final (left ++ more) = got :: holds id final (rest ++ more)) :
    Brings id ending left (.ready got, r)
  /-- The last result. -/
  | closes {got : Pulled Value} {r : Replies} (ends : got.isOver = true)
    (last : ∀ more final, Later ending more final → holds id final (left ++ more) = [got]) :
    Brings id ending left (.ready got, r)
  /-- There is no result yet. -/
  | waits {r : Replies} {rest : Bytes} (goesOn : ending = none) (remains : Remains id none r rest)
    (nothing : holds id none rest = [])
    (same : ∀ more final, holds id final (left ++ more) = holds id final (rest ++ more)) :
    Brings id ending left (.waiting none, r)

variable {id : RequestId} {ending : Option BodyEnd} {left left' line : Bytes} {r : Replies}
  {progress : Progress × Replies}

/-- Bytes that hold nothing can be read past. -/
theorem Brings.behind (brings : Brings id ending left progress)
    (same : ∀ more final, holds id final (left' ++ more) = holds id final (left ++ more)) :
    Brings id ending left' progress := by
  cases brings with
  | item goesOn remains first =>
    exact .item goesOn remains fun more final later => (same _ _).trans (first more final later)
  | closes ends last =>
    exact .closes ends fun more final later => (same _ _).trans (last more final later)
  | waits goesOn remains nothing same' =>
    exact .waits goesOn remains nothing fun more final => (same _ _).trans (same' more final)

/-- A line has a result, or the pull goes on behind it. -/
theorem brings_line (whole : IsLine line) (remains : Remains id ending r left)
    (behind : Brings id ending left progress) :
    Brings id ending (line ++ left) (match (LineContent.ofLine line).pulled? id with
      | some got => (.ready got, r)
      | none => progress) := by
  cases pulled : (LineContent.ofLine line).pulled? id with
  | none =>
    refine behind.behind fun more final => ?_
    rw [List.append_assoc]
    exact holds_none whole pulled _
  | some got =>
    cases ends : got.isOver with
    | true =>
      refine .closes ends fun more final _ => ?_
      rw [List.append_assoc]
      exact holds_over whole pulled ends _
    | false =>
      refine .item ends remains fun more final _ => ?_
      rw [List.append_assoc]
      exact holds_item whole pulled ends _

/-- At the end of the body there is only the end. -/
theorem brings_end (id : RequestId) (r : Replies) :
    Brings id (some .complete) [] (.ready .finished, r) := by
  refine .closes rfl fun more final later => ?_
  obtain ⟨rfl, rfl⟩ := later.nothing
  exact holds_nil id _

/-- What is left at a clean end has a result, or there is only the end. -/
theorem brings_tail {tail : Bytes} (plain : lineFeed ∉ tail) (nonempty : tail ≠ [])
    (drained : Remains id (some .complete) r []) :
    Brings id (some .complete) tail (match (LineContent.ofLine tail).pulled? id with
      | some got => (.ready got, r)
      | none => (.ready .finished, r)) := by
  have held := holds_tail plain id (some .complete)
  rw [if_pos ⟨rfl, nonempty⟩] at held
  cases pulled : (LineContent.ofLine tail).pulled? id with
  | none =>
    refine .closes rfl fun more final later => ?_
    obtain ⟨rfl, rfl⟩ := later.nothing
    rw [List.append_nil, held, pulled]
    rfl
  | some got =>
    rw [pulled] at held
    cases ends : got.isOver with
    | true =>
      refine .closes ends fun more final later => ?_
      obtain ⟨rfl, rfl⟩ := later.nothing
      rw [List.append_nil, held]
      exact untilOver_of_over ends _
    | false =>
      refine .item ends drained fun more final later => ?_
      obtain ⟨rfl, rfl⟩ := later.nothing
      rw [List.append_nil, held, List.append_nil, holds_nil]
      exact untilOver_of_item ends _

/-- How many turns a pull can take. -/
def turns (r : Replies) : Nat :=
  r.buffer.length + r.arrived.size + if r.phase = .awaiting false then 1 else 0

theorem turns_lt (r : Replies) : turns r < r.buffer.length + r.arrived.size + 3 := by
  unfold turns
  split <;> omega

/-- What was read of a line does not remain. -/
theorem Remains.behind {rest : Bytes} (remains : Remains id ending r left)
    (taken : takeLine r.buffer = some (line, rest)) :
    ∃ behind, left = line ++ behind ∧ IsLine line ∧
      Remains id ending { r with buffer := rest } behind ∧
      turns { r with buffer := rest } < turns r := by
  obtain ⟨own, waits, bytes, ends, phase⟩ := remains
  obtain ⟨buffer, whole⟩ := takeLine_some taken
  rw [buffer, List.append_assoc] at bytes
  obtain ⟨inside, rfl, plain⟩ := whole
  refine ⟨_, bytes, ⟨inside, rfl, plain⟩, ⟨own, waits, rfl, ends, ?_⟩, ?_⟩
  · rcases phase with reading | ⟨-, nothing, -⟩ | awaiting
    · exact .inl reading
    · simp [nothing] at bytes
    · exact .inr (.inr awaiting)
  · simp only [turns, buffer, List.length_append, List.length_singleton]
    omega

/-- A chunk that is taken over remains to be read. -/
theorem Remains.chunk {chunk : Bytes} {chunks : List Bytes} (remains : Remains id ending r left)
    (reading : r.phase = .reading) (arrived : r.arrived.chunks = chunk :: chunks) :
    let next := { r with
      phase := .reading
      buffer := r.buffer ++ chunk
      arrived := ⟨r.arrived.head, chunks, r.arrived.ending⟩ }
    Remains id ending next left ∧ turns next < turns r := by
  refine ⟨⟨remains.own, remains.waits, ?_, remains.ends, .inl rfl⟩, ?_⟩
  · rw [remains.bytes, arrived]
    simp
  · simp only [turns, reading, arrived, Arrived.size, List.foldr_cons, List.length_append,
      reduceCtorEq, if_false]
    omega

/-- Bytes without a line hold nothing as long as more may come. -/
theorem brings_nothing (plain : lineFeed ∉ left) (remains : Remains id none r left) :
    Brings id none left (.waiting none, r) := by
  refine .waits rfl remains ?_ fun _ _ => rfl
  rw [holds_tail plain, if_neg fun both => nomatch both.1]
  rfl

/-- Nor do they if the body broke off. -/
theorem brings_broken (plain : lineFeed ∉ left) (r : Replies) :
    Brings r.id (some .broken) left (.ready (r.failed .brokenBody), r) := by
  refine .closes rfl fun more final later => ?_
  obtain ⟨rfl, rfl⟩ := later.nothing
  rw [List.append_nil, holds_tail plain, if_neg fun both => nomatch both.1]
  rfl

/-- A pull brings the first result of what remains. -/
theorem read_brings (fuel : Nat) (remains : Remains id ending r left) (enough : turns r < fuel) :
    Brings id ending left (r.read fuel) := by
  induction fuel generalizing r left with
  | zero => exact absurd enough (Nat.not_lt_zero _)
  | succ fuel ih =>
    rw [Replies.read]
    cases taken : takeLine r.buffer with
    | some parts =>
      obtain ⟨line, rest⟩ := parts
      obtain ⟨behind, rfl, whole, rests, fewer⟩ := remains.behind taken
      obtain rfl : r.id = id := remains.own
      exact brings_line whole rests (ih rests (by omega))
    | none =>
      have plain := takeLine_none taken
      obtain ⟨rfl, waits, bytes, rfl, phase⟩ := remains
      dsimp only
      rcases phase with reading | ⟨drained, nothing, complete⟩ | ⟨awaiting, status, head, success⟩
      · have remains : Remains r.id r.arrived.ending r left := ⟨rfl, waits, bytes, rfl, .inl reading⟩
        rw [reading]
        dsimp only
        cases chunks : r.arrived.chunks with
        | cons chunk chunks =>
          obtain ⟨rests, fewer⟩ := remains.chunk reading chunks
          exact ih rests (by omega)
        | nil =>
          have tail : left = r.buffer := by rw [bytes, chunks]; exact List.append_nil _
          subst tail
          cases ends : r.arrived.ending with
          | none => exact brings_nothing plain (ends ▸ remains)
          | some how =>
            cases how with
            | broken => exact brings_broken plain r
            | complete =>
              have drained : Remains r.id (some .complete)
                  { r with phase := .drained, buffer := [] } [] :=
                ⟨rfl, waits, by rw [chunks]; rfl, ends, .inr (.inl ⟨rfl, rfl, rfl⟩)⟩
              dsimp only
              cases empty : r.buffer.isEmpty with
              | true =>
                rw [List.isEmpty_iff.mp empty]
                exact brings_end r.id _
              | false => exact brings_tail plain (by simpa using empty) drained
      · rw [drained, nothing, complete]
        exact brings_end r.id r
      · rw [awaiting]
        simp only [head, success, if_true]
        refine ih ⟨rfl, waits, bytes, rfl, .inl rfl⟩ ?_
        simp only [turns, awaiting, if_true] at enough ⊢
        simp
        omega

/-- So does one that is begun or goes on, and behind the last result there is only the end. -/
theorem resume_brings (remains : Remains id ending r left) :
    Brings id ending left (r.resume none) ∧
      ∀ got, (r.resume none).1 = .ready got → got.isOver = true →
        (r.resume none).2.done = true := by
  have brings := read_brings _ remains (turns_lt r)
  rw [Replies.resume, if_neg (by simp [remains.waits])]
  dsimp only
  generalize r.read (r.buffer.length + r.arrived.size + 3) = pulled at brings
  cases brings with
  | @item got after rest goesOn rests first =>
    have same : after.conclude got = after := if_neg (by simp [goesOn])
    refine ⟨?_, fun got' told isOver => ?_⟩
    · dsimp only
      rw [same]
      exact .item goesOn rests first
    · cases told
      rw [goesOn] at isOver
      cases isOver
  | @closes got after ends last =>
    refine ⟨.closes ends last, fun got' told isOver => ?_⟩
    have done : after.conclude got = { after with done := true, phase := .drained } := if_pos ends
    dsimp only
    rw [done]
  | waits goesOn rests nothing same =>
    refine ⟨.waits goesOn rests nothing same, fun got told => ?_⟩
    cases told

theorem resume_done (done : r.done = true) : r.resume none = (.ready .finished, r) :=
  if_pos done

/-! ## All pulls -/

/-- What replies are still to bring: nothing once they are done, and before that what the bytes
hold that are still to be read. -/
def StillBrings (id : RequestId) (how : BodyEnd) (r : Replies) (results : List (Pulled Value)) :
    Prop :=
  (r.done = true ∧ results = []) ∨ ∃ left, Remains id (some how) r left ∧
    results = reading id how left

/-- The pulls from replies whose body has come as a whole bring what that holds. -/
theorem Remains.supplies {how : BodyEnd} (remains : Remains id (some how) r left) :
    Supplies Replies.recv r (reading id how left) := by
  refine .of_step (StillBrings id how) ?_ (.inr ⟨left, remains, rfl⟩)
  rintro r results (⟨done, rfl⟩ | ⟨left, remains, rfl⟩)
  · rw [Replies.recv, resume_done done]
    exact ⟨rfl, .inl ⟨done, rfl⟩⟩
  · obtain ⟨brings, last⟩ := resume_brings remains
    rw [Replies.recv]
    generalize r.resume none = pulled at brings last
    cases brings with
    | item goesOn rests first =>
      have now := first [] (some how) (.inr ⟨rfl, rfl⟩)
      rw [List.append_nil, List.append_nil] at now
      rw [reading, now]
      exact ⟨rfl, .inr ⟨_, rests, rfl⟩⟩
    | closes ends only =>
      have now := only [] (some how) (.inr ⟨rfl, rfl⟩)
      rw [List.append_nil] at now
      rw [reading, now]
      exact ⟨rfl, .inl ⟨last _ rfl ends, rfl⟩⟩
    | waits goesOn => cases goesOn

end Backchannel.Http
