/-
# Backchannel.Proofs.Json.Reread -- what a written value reads as

The compact text of a value is read back by induction on the value.  Numbers are read each
for itself (`read`), and an object gets its members one by one, so that of two members of
one key the later stands (`Value.reread`).  Nothing else changes; a value in good order
whose numbers are read as they are is read as it is (`Value.reread_fixed`).

Reading fails in one way only: where more containers stand inside one another than there is
room for.  Which character that happens at does not matter here, so readings are compared up
to the spot of a fault (`outcome`).
-/
import Backchannel.Proofs.Json.Written

namespace Backchannel.Json

set_option autoImplicit false

/-! ## Readings up to the spot of a fault -/

/-- What a reader answers, with only the cause of a fault. -/
def outcome {α : Type} (reading : Except Fault α) : Except Cause α :=
  reading.mapError Fault.cause

@[simp] theorem outcome_ok {α : Type} (a : α) : outcome (.ok a : Except Fault α) = .ok a := rfl

@[simp] theorem outcome_malformed {α : Type} (how : Malformed) (spot : Spot) :
    outcome (malformed how spot : Except Fault α) = .error (.malformed how) := rfl

theorem outcome_bind {α β : Type} (x : Except Fault α) (f : α → Except Fault β) :
    outcome (x >>= f) = outcome x >>= fun a => outcome (f a) := by
  cases x <;> rfl

@[simp] theorem outcome_map {α β : Type} (x : Except Fault α) (f : α → β) :
    outcome (x.map f) = (outcome x).map f := by
  cases x <;> rfl

/-- What a reading with a limit comes to: the result, or that the text is nested too deeply. -/
def within {α : Type} (depth room : Nat) (a : α) : Except Cause α :=
  if depth ≤ room then .ok a else .error (.malformed .tooDeep)

theorem within_bind {α β : Type} (depth room : Nat) (a : α) (f : α → Except Cause β) :
    (within depth room a >>= f) =
      if depth ≤ room then f a else .error (.malformed .tooDeep) := by
  unfold within
  split <;> rfl

namespace Value

/-! ## Numbers of a value -/

mutual

def numbers : Value → List Number
  | .number n => [n]
  | .list items => numbersItems items
  | .object members => numbersMembers members
  | _ => []

def numbersItems : List Value → List Number
  | [] => []
  | v :: rest => v.numbers ++ numbersItems rest

def numbersMembers : List (String × Value) → List Number
  | [] => []
  | (_, v) :: rest => v.numbers ++ numbersMembers rest

end

mutual

/-- A value as it comes back when each number comes back as `read` says. -/
def reread (read : Number → Number) : Value → Value
  | .number n => .number (read n)
  | .list items => .list (rereadItems read items)
  | .object members => .object (Members.ofList (rereadMembers read members))
  | v => v

def rereadItems (read : Number → Number) : List Value → List Value
  | [] => []
  | v :: rest => v.reread read :: rereadItems read rest

def rereadMembers (read : Number → Number) : List (String × Value) → List (String × Value)
  | [] => []
  | (k, v) :: rest => (k, v.reread read) :: rereadMembers read rest

end

end Value

/-! ## Marks between values -/

theorem skipBlank_cons {c : Char} (dark : isJsonBlank c = false) (s : List Char) :
    skipBlank (c :: s) = c :: s := by
  simp [skipBlank, dark]

/-- A text that starts like a value: neither with a blank nor with a closing bracket. -/
def StartsValue (s : List Char) : Prop :=
  ∃ c rest, s = c :: rest ∧ isJsonBlank c = false ∧ c ≠ ']'

theorem StartsNumber.startsValue {c : Char} (start : StartsNumber c) (s : List Char) :
    StartsValue (c :: s) := by
  refine ⟨c, s, rfl, ?_, ?_⟩
  · rcases start with rfl | digit
    · decide
    · cases blank : isJsonBlank c with
      | false => rfl
      | true =>
        simp only [isJsonBlank, Bool.or_eq_true, decide_eq_true_eq] at blank
        rcases blank with ((rfl | rfl) | rfl) | rfl <;> exact absurd digit (by decide)
  · rcases start with rfl | digit
    · decide
    · rintro rfl
      exact absurd digit (by decide)

theorem nextItem_first {s : List Char} (start : StartsValue s) :
    nextItem true s = .ok (true, s) := by
  obtain ⟨c, rest, rfl, dark, goesOn⟩ := start
  simp [nextItem, skipBlank_cons dark]

theorem nextItem_comma {s : List Char} (start : StartsValue s) :
    nextItem false (',' :: s) = .ok (true, s) := by
  obtain ⟨c, rest, rfl, dark, goesOn⟩ := start
  have comma : skipBlank (',' :: c :: rest) = ',' :: c :: rest := skipBlank_cons (by decide) _
  simp [nextItem, comma, skipBlank_cons dark, goesOn]

theorem nextItem_bracket (first : Bool) (s : List Char) :
    nextItem first (']' :: s) = .ok (false, ']' :: s) := rfl

theorem nextKey_first (s : List Char) : nextKey true ('"' :: s) = .ok (true, s) := rfl

theorem nextKey_comma (s : List Char) : nextKey false (',' :: '"' :: s) = .ok (true, s) := rfl

theorem nextKey_brace (first : Bool) (s : List Char) :
    nextKey first ('}' :: s) = .ok (false, '}' :: s) := rfl

theorem readColon_colon (s : List Char) : readColon (':' :: s) = .ok s := rfl

/-- What the reader takes to be the number that `read` says. -/
def Value.Known (read : Number → Number) (v : Value) : Prop :=
  ∀ n ∈ v.numbers, n.ReadsAs (read n)

variable {read : Number → Number}

/-- A value starts neither with a blank nor with a closing bracket. -/
theorem Value.startsValue {v : Value} (known : v.Known read) (rest : List Char) :
    StartsValue (v.write rest) := by
  cases v with
  | null => exact ⟨_, _, rfl, by decide, by decide⟩
  | bool b => cases b <;> exact ⟨_, _, rfl, by decide, by decide⟩
  | number n =>
    obtain ⟨c, cs, written, start, -⟩ := known n (by simp [numbers])
    rw [write, written]
    exact start.startsValue _
  | text s => exact ⟨_, _, rfl, by decide, by decide⟩
  | list items => cases items <;> exact ⟨_, _, rfl, by decide, by decide⟩
  | object members =>
    rcases members with _ | ⟨⟨k, v⟩, ms⟩ <;> exact ⟨_, _, rfl, by decide, by decide⟩

theorem endsNumber_writeItems (vs : List Value) (rest : List Char) :
    EndsNumber (Value.writeItems vs rest) := by
  cases vs <;> exact endsNumber_cons (by decide) (by decide) (by decide)

theorem endsNumber_writeMembers (ms : Members) (rest : List Char) :
    EndsNumber (Value.writeMembers ms rest) := by
  rcases ms with _ | ⟨⟨k, v⟩, ms⟩ <;> exact endsNumber_cons (by decide) (by decide) (by decide)

/-! ## What follows a written value -/

theorem writeChars_append (cs rest : List Char) :
    writeChars cs rest = writeChars cs [] ++ rest := by
  induction cs with
  | nil => rfl
  | cons c cs ih =>
    change escape c ++ writeChars cs rest = escape c ++ writeChars cs [] ++ rest
    rw [ih, List.append_assoc]

theorem writeText_append (s : String) (rest : List Char) :
    writeText s rest = writeText s [] ++ rest := by
  rw [writeText, writeChars_append, writeText, List.cons_append]

namespace Value

mutual

/-- What follows a value stands behind its text. -/
theorem write_append : (v : Value) → (rest : List Char) → v.write rest = v.write [] ++ rest
  | .null, rest => rfl
  | .bool true, rest => rfl
  | .bool false, rest => rfl
  | .number n, rest => by simp [write]
  | .text s, rest => by
    rw [write, write, writeText_append]
  | .list [], rest => rfl
  | .list (v :: vs), rest => by
    rw [write, write, write_append v, writeItems_append vs, write_append v (writeItems vs [])]
    simp
  | .object [], rest => rfl
  | .object ((k, v) :: ms), rest => by
    rw [write, write, writeText_append, writeText_append k (':' :: v.write (writeMembers ms [])),
      write_append v, writeMembers_append ms, write_append v (writeMembers ms [])]
    simp

theorem writeItems_append : (vs : List Value) → (rest : List Char) →
    writeItems vs rest = writeItems vs [] ++ rest
  | [], rest => rfl
  | v :: vs, rest => by
    rw [writeItems, writeItems, write_append v, writeItems_append vs,
      write_append v (writeItems vs [])]
    simp

theorem writeMembers_append : (ms : Members) → (rest : List Char) →
    writeMembers ms rest = writeMembers ms [] ++ rest
  | [], rest => rfl
  | (k, v) :: ms, rest => by
    rw [writeMembers, writeMembers, writeText_append,
      writeText_append k (':' :: v.write (writeMembers ms [])),
      write_append v, writeMembers_append ms, write_append v (writeMembers ms [])]
    simp

end

theorem length_write_le (v : Value) (rest : List Char) : rest.length ≤ (v.write rest).length := by
  rw [write_append]
  simp

end Value

/-- A key and its marks take up room in front of the member's value. -/
theorem length_writeText_value (k : String) (written : List Char) :
    written.length + 3 ≤ (writeText k (':' :: written)).length := by
  have := writeChars_length k.toList (':' :: written)
  simp only [writeText, List.length_cons] at this ⊢
  omega

/-! ## One step of reading -/

section

variable {fuel room : Nat}

theorem readValueIn_scalar {c : Char} {s : List Char} {reading : Reading Value}
    (dark : isJsonBlank c = false) (scalar : readScalar? c s = some reading) :
    readValueIn (fuel + 1) room (c :: s) = reading := by
  simp [readValueIn, skipBlank_cons dark, scalar]

theorem within_succ {α : Type} (depth room : Nat) (a : α) :
    within (depth + 1) (room + 1) a = within depth room a := by
  simp [within]

/-- A list is read where there is room for it and for what it holds. -/
theorem outcome_list {depth : Nat} {s rest : List Char} {items : List Value}
    (inside : ∀ room, outcome (readItems fuel room true s) = within depth room (items, rest)) :
    outcome (readValueIn (fuel + 1) room ('[' :: s)) =
      within (depth + 1) room (.list items, rest) := by
  cases room with
  | zero => rfl
  | succ room =>
    have opened : readValueIn (fuel + 1) (room + 1) ('[' :: s) =
        (readItems fuel room true s).map fun r => (.list r.1, r.2) := by
      simp only [readValueIn, skipBlank_cons (show isJsonBlank '[' = false by decide)]
      cases readItems fuel room true s <;> rfl
    rw [opened, outcome_map, inside, within_succ, within, within]
    split <;> rfl

theorem outcome_object {depth : Nat} {s rest : List Char} {members : Members}
    (inside : ∀ room,
      outcome (readMembers fuel room true [] s) = within depth room (members, rest)) :
    outcome (readValueIn (fuel + 1) room ('{' :: s)) =
      within (depth + 1) room (.object members, rest) := by
  cases room with
  | zero => rfl
  | succ room =>
    have opened : readValueIn (fuel + 1) (room + 1) ('{' :: s) =
        (readMembers fuel room true [] s).map fun r => (.object r.1, r.2) := by
      simp only [readValueIn, skipBlank_cons (show isJsonBlank '{' = false by decide)]
      cases readMembers fuel room true [] s <;> rfl
    rw [opened, outcome_map, inside, within_succ, within, within]
    split <;> rfl

/-- There is room for both of two depths if there is for the larger one. -/
theorem within_max {α : Type} (d e room : Nat) (a : α) :
    (if d ≤ room then within e room a else .error (.malformed .tooDeep)) =
      within (max d e) room a := by
  by_cases deep : d ≤ room
  · rw [if_pos deep, within, within]
    by_cases wide : e ≤ room
    · rw [if_pos wide, if_pos (Nat.max_le.mpr ⟨deep, wide⟩)]
    · rw [if_neg wide, if_neg fun both => wide (Nat.max_le.mp both).2]
  · rw [if_neg deep, within, if_neg fun both => deep (Nat.max_le.mp both).1]

/-- An item and those behind it are read if there is room for all of them. -/
theorem outcome_item {first : Bool} {s t u rest : List Char} {v : Value} {vs : List Value}
    {d e : Nat} (more : nextItem first s = .ok (true, t))
    (item : outcome (readValueIn fuel room t) = within d room (v, u))
    (others : outcome (readItems fuel room false u) = within e room (vs, rest)) :
    outcome (readItems (fuel + 1) room first s) = within (max d e) room (v :: vs, rest) := by
  have unfolded : readItems (fuel + 1) room first s = readValueIn fuel room t >>= fun r =>
      readItems fuel room false r.2 >>= fun q => .ok (r.1 :: q.1, q.2) := by
    rw [readItems, more]
    rfl
  rw [unfolded, outcome_bind, item, within_bind, outcome_bind, others, within_bind]
  exact within_max d e room (v :: vs, rest)

theorem outcome_items_end (first : Bool) (rest : List Char) :
    outcome (readItems (fuel + 1) room first (']' :: rest)) = within 0 room ([], rest) := by
  have ends : readItems (fuel + 1) room first (']' :: rest) = .ok ([], rest) := by
    rw [readItems, nextItem_bracket]
    rfl
  rw [ends, outcome_ok, within, if_pos (Nat.zero_le room)]

/-- A member is read and kept, and those behind it are, if there is room for all. -/
theorem outcome_member {first : Bool} {members after : Members} {s t rest : List Char}
    {key : String} {written : List Char} {v : Value} {d e : Nat}
    (more : nextKey first s = .ok (true, writeChars key.toList (':' :: written)))
    (value : outcome (readValueIn fuel room written) = within d room (v, t))
    (others : outcome (readMembers fuel room false (members.insert key v) t) =
      within e room (after, rest)) :
    outcome (readMembers (fuel + 1) room first members s) =
      within (max d e) room (after, rest) := by
  have unfolded : readMembers (fuel + 1) room first members s =
      readValueIn fuel room written >>= fun r =>
        readMembers fuel room false (members.insert key r.1) r.2 := by
    simp only [readMembers, more, readText_write, readColon_colon, bind, Except.bind, if_true]
  rw [unfolded, outcome_bind, value, within_bind, others]
  exact within_max d e room (after, rest)

theorem outcome_members_end (first : Bool) (members : Members) (rest : List Char) :
    outcome (readMembers (fuel + 1) room first members ('}' :: rest)) =
      within 0 room (members, rest) := by
  have ends : readMembers (fuel + 1) room first members ('}' :: rest) = .ok (members, rest) := by
    rw [readMembers, nextKey_brace]
    rfl
  rw [ends, outcome_ok, within, if_pos (Nat.zero_le room)]

end

/-! ## Reading what was written -/

namespace Value

mutual

/-- A written value is read, as far as there is room for its containers. -/
theorem readValueIn_write : (v : Value) → v.Known read → (rest : List Char) → EndsNumber rest →
    (fuel room : Nat) → 2 * (v.write rest).length < fuel →
    outcome (readValueIn fuel room (v.write rest)) = within v.depth room (v.reread read, rest)
  | .null, _, rest, _, fuel + 1, room, _ => by
    rw [write, readValueIn_scalar (by decide) rfl]
    rfl
  | .bool true, _, rest, _, fuel + 1, room, _ => by
    rw [write, readValueIn_scalar (by decide) rfl]
    rfl
  | .bool false, _, rest, _, fuel + 1, room, _ => by
    rw [write, readValueIn_scalar (by decide) rfl]
    rfl
  | .number n, known, rest, ends, fuel + 1, room, _ => by
    obtain ⟨c, cs, written, start, reads⟩ := known n (by simp [numbers])
    obtain ⟨_, _, same, dark, -⟩ := start.startsValue cs
    cases same
    rw [write, written, List.cons_append, readValueIn_scalar dark (reads rest ends)]
    rfl
  | .text s, _, rest, _, fuel + 1, room, _ => by
    rw [write, writeText, readValueIn_scalar (by decide) rfl, readText_write]
    rfl
  | .list [], _, rest, _, fuel + 1, room, enough => by
    obtain ⟨fuel, rfl⟩ : ∃ f, fuel = f + 1 := ⟨fuel - 1, by simp [write] at enough; omega⟩
    rw [write, outcome_list fun room => outcome_items_end true rest]
    rfl
  | .list (v :: vs), known, rest, _, fuel + 1, room, enough => by
    rw [write, List.length_cons] at enough
    have shorter := v.length_write_le (writeItems vs rest)
    obtain ⟨fuel, rfl⟩ : ∃ f, fuel = f + 1 := ⟨fuel - 1, by omega⟩
    have here : v.Known read := fun n among => known n (by simp [numbers, numbersItems, among])
    rw [write, outcome_list fun room => outcome_item (nextItem_first (startsValue here _))
      (readValueIn_write v here _ (endsNumber_writeItems vs rest) fuel room (by omega))
      (readItems_write vs (fun n among => known n (by simp [numbers, numbersItems, among])) rest
        fuel room (by omega))]
    rfl
  | .object [], _, rest, _, fuel + 1, room, enough => by
    obtain ⟨fuel, rfl⟩ : ∃ f, fuel = f + 1 := ⟨fuel - 1, by simp [write] at enough; omega⟩
    rw [write, outcome_object fun room => outcome_members_end true [] rest]
    rfl
  | .object ((k, v) :: ms), known, rest, _, fuel + 1, room, enough => by
    have key := length_writeText_value k (v.write (writeMembers ms rest))
    have shorter := v.length_write_le (writeMembers ms rest)
    rw [write, List.length_cons] at enough
    obtain ⟨fuel, rfl⟩ : ∃ f, fuel = f + 1 := ⟨fuel - 1, by omega⟩
    have here : v.Known read := fun n among => known n (by simp [numbers, numbersMembers, among])
    rw [write, writeText, outcome_object fun room => outcome_member (nextKey_first _)
      (readValueIn_write v here _ (endsNumber_writeMembers ms rest) fuel room (by omega))
      (readMembers_write ms (fun n among => known n (by simp [numbers, numbersMembers, among]))
        _ rest fuel room (by omega))]
    rfl

/-- The items behind the first are read up to the closing bracket. -/
theorem readItems_write : (vs : List Value) → (∀ n ∈ numbersItems vs, n.ReadsAs (read n)) →
    (rest : List Char) → (fuel room : Nat) → 2 * (writeItems vs rest).length < fuel →
    outcome (readItems fuel room false (writeItems vs rest)) =
      within (depthItems vs) room (rereadItems read vs, rest)
  | [], _, rest, fuel + 1, room, _ => by
    rw [writeItems, outcome_items_end]
    rfl
  | v :: vs, known, rest, fuel + 1, room, enough => by
    rw [writeItems, List.length_cons] at enough
    have shorter := v.length_write_le (writeItems vs rest)
    have here : v.Known read := fun n among => known n (by simp [numbersItems, among])
    rw [writeItems, outcome_item (nextItem_comma (startsValue here _))
      (readValueIn_write v here _ (endsNumber_writeItems vs rest) fuel room (by omega))
      (readItems_write vs (fun n among => known n (by simp [numbersItems, among])) rest
        fuel room (by omega))]
    rfl

/-- The members behind the first are read into those before them. -/
theorem readMembers_write : (ms : Members) → (∀ n ∈ numbersMembers ms, n.ReadsAs (read n)) →
    (before : Members) → (rest : List Char) → (fuel room : Nat) →
    2 * (writeMembers ms rest).length < fuel →
    outcome (readMembers fuel room false before (writeMembers ms rest)) =
      within (depthMembers ms) room ((rereadMembers read ms).foldl
        (fun members entry => members.insert entry.1 entry.2) before, rest)
  | [], _, before, rest, fuel + 1, room, _ => by
    rw [writeMembers, outcome_members_end]
    rfl
  | (k, v) :: ms, known, before, rest, fuel + 1, room, enough => by
    have key := length_writeText_value k (v.write (writeMembers ms rest))
    have shorter := v.length_write_le (writeMembers ms rest)
    rw [writeMembers, List.length_cons] at enough
    have here : v.Known read := fun n among => known n (by simp [numbersMembers, among])
    rw [writeMembers, writeText, outcome_member (nextKey_comma _)
      (readValueIn_write v here _ (endsNumber_writeMembers ms rest) fuel room (by omega))
      (readMembers_write ms (fun n among => known n (by simp [numbersMembers, among])) _ rest
        fuel room (by omega))]
    rfl

end

/-- A value is read as it comes back from its text. -/
theorem readValue_write {v : Value} (known : v.Known read) {rest : List Char}
    (ends : EndsNumber rest) (room : Nat) :
    outcome (readValue room (v.write rest)) = within v.depth room (v.reread read, rest) :=
  v.readValueIn_write known rest ends _ room (by omega)

end Value

/-! ## Values in good order -/

namespace Members

theorem insert_nil (key : String) (v : Value) : insert key v [] = [(key, v)] := rfl

theorem insert_before {key k : String} (before : key < k) (v w : Value) (rest : Members) :
    insert key v ((k, w) :: rest) = (key, v) :: (k, w) :: rest := by
  rw [insert, if_pos before]

theorem insert_behind {key k : String} (behind : k < key) (v w : Value) (rest : Members) :
    insert key v ((k, w) :: rest) = (k, w) :: insert key v rest := by
  have other : key ≠ k := by
    rintro rfl
    exact String.lt_irrefl _ behind
  rw [insert, if_neg (String.lt_asymm behind), if_neg other]

/-- A key behind all others is put there. -/
theorem insert_last {ms : Members} {key : String} (v : Value)
    (behind : ∀ k ∈ ms.map Prod.fst, k < key) : ms.insert key v = ms ++ [(key, v)] := by
  induction ms with
  | nil => rfl
  | cons entry ms ih =>
    obtain ⟨k, w⟩ := entry
    rw [insert_behind (behind k (by simp)), ih fun k among => behind k (by simp_all)]
    rfl

theorem foldl_insert {before ms : Members}
    (ordered : ((before ++ ms).map Prod.fst).Pairwise (· < ·)) :
    ms.foldl (fun members entry => members.insert entry.1 entry.2) before = before ++ ms := by
  induction ms generalizing before with
  | nil => simp
  | cons entry ms ih =>
    obtain ⟨k, v⟩ := entry
    have behind : ∀ l ∈ before.map Prod.fst, l < k := by
      rw [List.map_append, List.pairwise_append] at ordered
      exact fun l among => ordered.2.2 l among k (by simp)
    rw [List.foldl_cons, insert_last v behind, ih (by simpa using ordered)]
    simp

/-- Members in the order of their keys stay as they are. -/
theorem ofList_ordered {ms : Members} (ordered : (ms.map Prod.fst).Pairwise (· < ·)) :
    ofList ms = ms :=
  @foldl_insert [] ms ordered

end Members

namespace Value

/-- All numbers of the value come back as they are. -/
def Fixed (read : Number → Number) (v : Value) : Prop := ∀ n ∈ v.numbers, read n = n

mutual

/-- A value in good order whose numbers come back as they are comes back as it is. -/
theorem reread_fixed : (v : Value) → v.Ordered → v.Fixed read → v.reread read = v
  | .null, _, _ | .bool _, _, _ | .text _, _, _ => rfl
  | .number n, _, fixed => by rw [reread, fixed n (by simp [numbers])]
  | .list items, ordered, fixed => by rw [reread, rereadItems_fixed items ordered fixed]
  | .object members, ordered, fixed => by
    rw [reread, rereadMembers_fixed members ordered.2 fixed, Members.ofList_ordered ordered.1]

theorem rereadItems_fixed : (vs : List Value) → OrderedItems vs →
    (∀ n ∈ numbersItems vs, read n = n) → rereadItems read vs = vs
  | [], _, _ => rfl
  | v :: vs, ordered, fixed => by
    rw [rereadItems,
      reread_fixed v ordered.1 fun n among => fixed n (by simp [numbersItems, among]),
      rereadItems_fixed vs ordered.2 fun n among => fixed n (by simp [numbersItems, among])]

theorem rereadMembers_fixed : (ms : Members) → OrderedMembers ms →
    (∀ n ∈ numbersMembers ms, read n = n) → rereadMembers read ms = ms
  | [], _, _ => rfl
  | (k, v) :: ms, ordered, fixed => by
    rw [rereadMembers,
      reread_fixed v ordered.1 fun n among => fixed n (by simp [numbersMembers, among]),
      rereadMembers_fixed ms ordered.2 fun n among => fixed n (by simp [numbersMembers, among])]

end

end Value

end Backchannel.Json
