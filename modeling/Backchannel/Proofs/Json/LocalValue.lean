/-
# Backchannel.Proofs.Json.LocalValue -- how far a value reaches

Values, whether they are kept or passed over, are read without a look beyond the character
that follows them.  Both readers count their fuel in steps: what a value takes is fuel enough
to read it (`fueled`), twice as much to pass over it (`fueledSkip`), for an opening bracket
takes two steps.
-/
import Backchannel.Proofs.Json.Local

namespace Backchannel.Json

set_option autoImplicit false

open Backchannel.Except (bind_eq_ok map_eq_ok)

variable {α β : Type} {s t rest : List Char}

/-! ## Marks -/

theorem readColon_local : Local passed readColon := by
  intro s a rest read
  unfold readColon at read
  split at read
  · cases read
  · rename_i found
    cases read
    obtain ⟨cs, -, split, again⟩ := skipBlank_mark found
    refine ⟨cs ++ [':'], by simp, by simpa [passed] using split, fun rest' _ => ?_⟩
    simp [readColon, again, passed]
  · cases read

/-- Another member follows: its key begins where the text goes on. -/
theorem nextKey_more {first : Bool} (read : nextKey first s = .ok (true, t)) :
    ∃ mark, mark ≠ [] ∧ s = mark ++ t ∧ ∀ t', nextKey first (mark ++ t') = .ok (true, t') := by
  unfold nextKey at read
  split at read
  · cases read
  · cases read
  · rename_i c u goesOn found
    obtain ⟨cs, -, split, again⟩ := skipBlank_mark found
    split at read
    · rename_i isFirst
      split at read
      · rename_i quote
        subst quote
        cases read
        refine ⟨cs ++ ['"'], by simp, by simpa using split, fun t' => ?_⟩
        simp [nextKey, again, isFirst]
      · cases read
    · rename_i later
      split at read
      · rename_i comma
        subst comma
        split at read
        · cases read
        · rename_i v found'
          cases read
          obtain ⟨ds, -, split', again'⟩ := skipBlank_mark found'
          refine ⟨cs ++ ',' :: (ds ++ ['"']), by simp, by simp [split, split'], fun t' => ?_⟩
          simp [nextKey, again, again', later]
        · cases read
        · cases read
      · cases read

/-- No member follows: the brace is left. -/
theorem nextKey_end {first : Bool} (read : nextKey first s = .ok (false, t)) :
    ∃ cs u, t = '}' :: u ∧ s = cs ++ t ∧
      ∀ u', nextKey first (cs ++ '}' :: u') = .ok (false, '}' :: u') := by
  unfold nextKey at read
  split at read
  · cases read
  · rename_i u found
    cases read
    obtain ⟨cs, -, split, again⟩ := skipBlank_mark found
    exact ⟨cs, u, rfl, split, fun u' => by simp [nextKey, again]⟩
  · split at read
    · split at read <;> cases read
    · split at read
      · split at read <;> cases read
      · cases read

/-- Another item follows: it begins where the text goes on. -/
theorem nextItem_more {first : Bool} (read : nextItem first s = .ok (true, t)) :
    ∃ mark, s = mark ++ t ∧
      ∀ t', t'.head? = t.head? → nextItem first (mark ++ t') = .ok (true, t') := by
  unfold nextItem at read
  split at read
  · cases read
  · cases read
  · rename_i c u goesOn found
    obtain ⟨cs, -, split, again⟩ := skipBlank_mark found
    split at read
    · rename_i isFirst
      cases read
      refine ⟨cs, split, fun t' same => ?_⟩
      cases t' with
      | nil => cases same
      | cons d t' =>
        cases same
        simp [nextItem, again, isFirst]
    · rename_i later
      split at read
      · rename_i comma
        subst comma
        split at read
        · cases read
        · cases read
        · rename_i more open_
          cases read
          cases found' : skipBlank u with
          | nil => exact absurd found' more
          | cons d v =>
            obtain ⟨ds, -, split', again'⟩ := skipBlank_mark found'
            refine ⟨cs ++ ',' :: ds, by simp [split, split'], fun t' same => ?_⟩
            cases t' with
            | nil => cases same
            | cons e t' =>
              cases same
              have goesOn' : d ≠ ']' := fun own => open_ v (by rw [found', own])
              simp [nextItem, again, again', later, goesOn']
      · cases read

/-- No item follows: the bracket is left. -/
theorem nextItem_end {first : Bool} (read : nextItem first s = .ok (false, t)) :
    ∃ cs u, t = ']' :: u ∧ s = cs ++ t ∧
      ∀ u', nextItem first (cs ++ ']' :: u') = .ok (false, ']' :: u') := by
  unfold nextItem at read
  split at read
  · cases read
  · rename_i u found
    cases read
    obtain ⟨cs, -, split, again⟩ := skipBlank_mark found
    exact ⟨cs, u, rfl, split, fun u' => by simp [nextItem, again]⟩
  · split at read
    · cases read
    · split at read
      · split at read <;> cases read
      · cases read

/-! ## Values -/

theorem Local.map {R : List Char → Reading α} (h : Local Prod.mk R) (f : α → β) :
    Local Prod.mk fun s => (R s).map fun r => (f r.1, r.2) := by
  intro s b rest read
  obtain ⟨⟨a, t⟩, first, same⟩ := map_eq_ok.mp read
  cases same
  obtain ⟨used, some, split, takes⟩ := h s a t first
  exact ⟨used, some, split, fun rest' same => by simp [takes rest' same, Except.map]⟩

theorem Local.word (w : Char) (ws : List Char) (a : α) :
    Local Prod.mk fun s => (readWord (w :: ws) s).map (a, ·) := by
  intro s b rest read
  obtain ⟨t, first, same⟩ := map_eq_ok.mp read
  cases same
  obtain ⟨used, some, split, takes⟩ := readWord_local w ws s () rest first
  exact ⟨used, some, split, fun rest' same => by simp [takes rest' same, Except.map, passed]⟩

/-- What reads on behind a character that it knows. -/
theorem readScalar?_local (c : Char) {v : Value} (read : readScalar? c s = some (.ok (v, rest))) :
    ∃ used, s = used ++ rest ∧ ∀ rest', rest'.head? = rest.head? →
      readScalar? c (used ++ rest') = some (.ok (v, rest')) := by
  have behind {R : List Char → Reading Value} (h : LocalTail Prod.mk R)
      (form : ∀ s, readScalar? c s = some (R s)) : ∃ used, s = used ++ rest ∧
        ∀ rest', rest'.head? = rest.head? →
          readScalar? c (used ++ rest') = some (.ok (v, rest')) := by
    rw [form] at read
    obtain ⟨used, split, takes⟩ := h s v rest (Option.some.inj read)
    exact ⟨used, split, fun rest' same => by rw [form]; exact congrArg some (takes rest' same)⟩
  by_cases null : c = 'n'
  · exact behind (Local.word 'u' ['l', 'l'] .null).tail fun s => by simp [readScalar?, null]
  by_cases yes : c = 't'
  · exact behind (Local.word 'r' ['u', 'e'] (.bool true)).tail fun s => by
      simp [readScalar?, yes]
  by_cases no : c = 'f'
  · exact behind (Local.word 'a' ['l', 's', 'e'] (.bool false)).tail fun s => by
      simp [readScalar?, no]
  by_cases minus : c = '-'
  · have signed : Local Prod.mk (readNumber true) := readNumber_local
    exact behind (signed.map .number).tail fun s => by simp [readScalar?, minus]
  by_cases quote : c = '"'
  · exact behind (readText_local.map .text).tail fun s => by simp [readScalar?, quote, isDigit]
  cases digit : isDigit c with
  | false => simp [readScalar?, null, yes, no, minus, quote, digit] at read
  | true =>
    have form (s : List Char) : readScalar? c s =
        some ((readNumber false (c :: s)).map fun r => (.number r.1, r.2)) := by
      simp [readScalar?, null, yes, no, minus, digit]
    rw [form] at read
    obtain ⟨used, some, split, takes⟩ :=
      readNumber_local.map Value.number (c :: s) v rest (Option.some.inj read)
    cases used with
    | nil => exact absurd rfl some
    | cons d used =>
      obtain ⟨first, behind⟩ := List.cons.inj split
      subst first
      exact ⟨used, behind, fun rest' same => by rw [form]; exact congrArg _ (takes rest' same)⟩

theorem readScalar?_bracket (t : List Char) : readScalar? '[' t = none := rfl

theorem readScalar?_brace (t : List Char) : readScalar? '{' t = none := rfl

theorem fueled_value {n : Nat} (items : ∀ room first, Fueled (readItems · room first) n)
    (members : ∀ room first ms, Fueled (readMembers · room first ms) n) (room : Nat) :
    Fueled (readValueIn · room) (n + 1) := by
  intro s v rest read
  dsimp only at read
  rw [readValueIn] at read
  split at read
  · cases read
  · rename_i c t found
    obtain ⟨cs, -, rfl, again⟩ := skipBlank_mark found
    split at read
    · rename_i reading scalar
      subst read
      obtain ⟨used, rfl, takes⟩ := readScalar?_local c scalar
      refine ⟨cs ++ c :: used, by simp, by simp, fun fuel enough rest' same => ?_⟩
      obtain ⟨fuel, rfl⟩ := exists_fuel (by simp) enough
      simp [readValueIn, again, takes rest' same]
    · split at read
      · rename_i bracket
        subst bracket
        cases room with
        | zero => cases read
        | succ room =>
          rw [bind_eq_ok] at read
          obtain ⟨⟨vs, _⟩, inside, same⟩ := read
          cases same
          obtain ⟨used, some, rfl, takes⟩ := items room true t vs _ inside
          refine ⟨cs ++ '[' :: used, by simp, by simp, fun fuel enough rest' same => ?_⟩
          obtain ⟨fuel, rfl⟩ := exists_fuel (by simp) enough
          have back := takes fuel (by simp at enough; omega) rest' same
          simp only [List.append_assoc, List.cons_append, readValueIn, again, readScalar?_bracket]
          simp [back, bind, Except.bind, pure, Except.pure]
      · split at read
        · rename_i brace
          subst brace
          cases room with
          | zero => cases read
          | succ room =>
            rw [bind_eq_ok] at read
            obtain ⟨⟨ms, _⟩, inside, same⟩ := read
            cases same
            obtain ⟨used, some, rfl, takes⟩ := members room true [] t ms _ inside
            refine ⟨cs ++ '{' :: used, by simp, by simp, fun fuel enough rest' same => ?_⟩
            obtain ⟨fuel, rfl⟩ := exists_fuel (by simp) enough
            have back := takes fuel (by simp at enough; omega) rest' same
            simp only [List.append_assoc, List.cons_append, readValueIn, again, readScalar?_brace]
            simp [back, bind, Except.bind, pure, Except.pure]
        · cases read

theorem fueled_items {n : Nat} (value : ∀ room, Fueled (readValueIn · room) n)
    (items : ∀ room first, Fueled (readItems · room first) n) (room : Nat) (first : Bool) :
    Fueled (readItems · room first) (n + 1) := by
  intro s vs rest read
  dsimp only at read
  rw [readItems, bind_eq_ok] at read
  obtain ⟨⟨more, t⟩, next, read⟩ := read
  cases more with
  | false =>
    obtain ⟨cs, u, rfl, rfl, again⟩ := nextItem_end next
    cases read
    refine ⟨cs ++ [']'], by simp, by simp, fun fuel enough rest' _ => ?_⟩
    obtain ⟨fuel, rfl⟩ := exists_fuel (by simp) enough
    simp [readItems, again, bind, Except.bind, pure, Except.pure]
  | true =>
    obtain ⟨mark, rfl, again⟩ := nextItem_more next
    simp only [if_true, bind_eq_ok] at read
    obtain ⟨⟨v, u⟩, one, ⟨ws, _⟩, others, same⟩ := read
    cases same
    obtain ⟨used, some, rfl, takes⟩ := value room t v u one
    obtain ⟨used', some', rfl, takes'⟩ := items room false u ws _ others
    have size := List.length_pos_iff.mpr some
    have size' := List.length_pos_iff.mpr some'
    refine ⟨mark ++ (used ++ used'), by simp [some], by simp, fun fuel enough rest' same => ?_⟩
    obtain ⟨fuel, rfl⟩ := exists_fuel (by simp [some]) enough
    simp only [List.length_append] at enough
    have front := again (used ++ (used' ++ rest')) (head?_append_congr used
      (head?_append_ne_nil some' rest'))
    have middle := takes fuel (by omega) (used' ++ rest') (head?_append_ne_nil some' rest')
    have back := takes' fuel (by omega) rest' same
    simp [readItems, front, middle, back, bind, Except.bind, pure, Except.pure]

theorem fueled_members {n : Nat} (value : ∀ room, Fueled (readValueIn · room) n)
    (members : ∀ room first ms, Fueled (readMembers · room first ms) n) (room : Nat)
    (first : Bool) (ms : Members) : Fueled (readMembers · room first ms) (n + 1) := by
  intro s all rest read
  dsimp only at read
  rw [readMembers, bind_eq_ok] at read
  obtain ⟨⟨more, t⟩, next, read⟩ := read
  cases more with
  | false =>
    obtain ⟨cs, u, rfl, rfl, again⟩ := nextKey_end next
    cases read
    refine ⟨cs ++ ['}'], by simp, by simp, fun fuel enough rest' _ => ?_⟩
    obtain ⟨fuel, rfl⟩ := exists_fuel (by simp) enough
    simp [readMembers, again, bind, Except.bind, pure, Except.pure]
  | true =>
    obtain ⟨mark, -, rfl, again⟩ := nextKey_more next
    simp only [if_true, bind_eq_ok] at read
    obtain ⟨⟨key, u⟩, named, w, colon, ⟨v, x⟩, one, others⟩ := read
    obtain ⟨used, some, rfl, takes⟩ := readText_local t key u named
    obtain ⟨used₁, some₁, rfl, takes₁⟩ := readColon_local u () w colon
    obtain ⟨used₂, some₂, rfl, takes₂⟩ := value room w v x one
    obtain ⟨used₃, some₃, rfl, takes₃⟩ := members room false (ms.insert key v) x all rest others
    refine ⟨mark ++ (used ++ (used₁ ++ (used₂ ++ used₃))), by simp [some], by simp,
      fun fuel enough rest' same => ?_⟩
    have size := List.length_pos_iff.mpr some
    have size₂ := List.length_pos_iff.mpr some₂
    obtain ⟨fuel, rfl⟩ := exists_fuel (by simp [some]) enough
    simp only [List.length_append] at enough
    have key' := takes (used₁ ++ (used₂ ++ (used₃ ++ rest'))) (head?_append_ne_nil some₁ _)
    have colon' := takes₁ (used₂ ++ (used₃ ++ rest')) (head?_append_ne_nil some₂ _)
    have value' := takes₂ fuel (by omega) (used₃ ++ rest') (head?_append_ne_nil some₃ _)
    have back := takes₃ fuel (by omega) rest' same
    simp only [passed] at colon'
    simp [readMembers, again, key', colon', value', back, bind, Except.bind]

theorem fueled (n : Nat) :
    (∀ room, Fueled (readValueIn · room) n) ∧ (∀ room first, Fueled (readItems · room first) n) ∧
      ∀ room first ms, Fueled (readMembers · room first ms) n := by
  induction n with
  | zero =>
    refine ⟨fun room s v rest read => ?_, fun room first s v rest read => ?_,
      fun room first ms s v rest read => ?_⟩ <;>
      simp [readValueIn, readItems, readMembers, malformed] at read
  | succ n ih =>
    obtain ⟨value, items, members⟩ := ih
    exact ⟨fueled_value items members, fueled_items value items, fueled_members value members⟩

theorem readValue_local (room : Nat) : Local Prod.mk (readValue room) :=
  .of_fueled (fun n => 2 * n + 2) (fun n => by omega) fun n => (fueled n).1 room

/-! ## Values that are passed over -/

theorem skipScalar?_local (c : Char) (read : skipScalar? c s = some (.ok rest)) :
    ∃ used, s = used ++ rest ∧ ∀ rest', rest'.head? = rest.head? →
      skipScalar? c (used ++ rest') = some (.ok rest') := by
  have behind {S : List Char → Except Fault (List Char)} (h : LocalTail passed S)
      (form : ∀ s, skipScalar? c s = some (S s)) : ∃ used, s = used ++ rest ∧
        ∀ rest', rest'.head? = rest.head? → skipScalar? c (used ++ rest') = some (.ok rest') := by
    rw [form] at read
    obtain ⟨used, split, takes⟩ := h s () rest (Option.some.inj read)
    exact ⟨used, split, fun rest' same => by rw [form]; exact congrArg some (takes rest' same)⟩
  by_cases null : c = 'n'
  · exact behind (readWord_local 'u' ['l', 'l']).tail fun s => by simp [skipScalar?, null]
  by_cases yes : c = 't'
  · exact behind (readWord_local 'r' ['u', 'e']).tail fun s => by simp [skipScalar?, yes]
  by_cases no : c = 'f'
  · exact behind (readWord_local 'a' ['l', 's', 'e']).tail fun s => by simp [skipScalar?, no]
  by_cases minus : c = '-'
  · exact behind skipNumber_local.tail fun s => by simp [skipScalar?, minus]
  by_cases quote : c = '"'
  · exact behind skipText_local.tail fun s => by simp [skipScalar?, quote, isDigit]
  cases digit : isDigit c with
  | false => simp [skipScalar?, null, yes, no, minus, quote, digit] at read
  | true =>
    have form (s : List Char) : skipScalar? c s = some (skipNumber (c :: s)) := by
      simp [skipScalar?, null, yes, no, minus, digit]
    rw [form] at read
    obtain ⟨used, some, split, takes⟩ := skipNumber_local (c :: s) () rest (Option.some.inj read)
    cases used with
    | nil => exact absurd rfl some
    | cons d used =>
      obtain ⟨first, behind⟩ := List.cons.inj split
      subst first
      exact ⟨used, behind, fun rest' same => by rw [form]; exact congrArg _ (takes rest' same)⟩

theorem skipScalar?_bracket (t : List Char) : skipScalar? '[' t = none := rfl

theorem skipScalar?_brace (t : List Char) : skipScalar? '{' t = none := rfl

theorem skipKeyIn_tail (bracket : Bracket) : LocalTail passed (skipKeyIn bracket) := by
  intro s a rest read
  cases bracket with
  | list => exact passed_tail s a rest read
  | object =>
    change skipKey s = _ at read
    unfold skipKey at read
    split at read
    · cases read
    · rename_i t found
      obtain ⟨cs, -, rfl, again⟩ := skipBlank_mark found
      obtain ⟨u, named, colon⟩ := bind_eq_ok.mp read
      obtain ⟨used, -, rfl, takes⟩ := skipText_local t () u named
      obtain ⟨used', some', rfl, takes'⟩ := readColon_local u () rest colon
      refine ⟨cs ++ '"' :: (used ++ used'), by simp, fun rest' same => ?_⟩
      have front := takes (used' ++ rest') (head?_append_ne_nil some' rest')
      have back := takes' rest' same
      simp only [passed] at front
      simp [skipKeyIn, skipKey, again, front, back, bind, Except.bind]
    · cases read

/-- What is taken is, twice over, fuel enough, but for that much. -/
def FueledSkip (extra : Nat) (S : Nat → List Char → Except Fault (List Char)) (n : Nat) : Prop :=
  ∀ s rest, S n s = .ok rest → ∃ used, s = used ++ rest ∧
    ∀ fuel, 2 * used.length + extra ≤ fuel → Takes (S fuel) used rest id

theorem fueled_skipValue {n : Nat} (into : ∀ b opened, FueledSkip 1 (skipInto · b opened) n)
    (after : ∀ opened, FueledSkip 0 (skipAfter · opened) n) (opened : List Bracket) :
    FueledSkip 0 (skipValueIn · opened) (n + 1) := by
  intro s rest read
  dsimp only at read
  rw [skipValueIn] at read
  split at read
  · cases read
  · rename_i c t found
    obtain ⟨cs, -, rfl, again⟩ := skipBlank_mark found
    split at read
    · rename_i skipping scalar
      rw [bind_eq_ok] at read
      obtain ⟨u, rfl, read⟩ := read
      obtain ⟨used, rfl, takes⟩ := skipScalar?_local c scalar
      obtain ⟨used', rfl, takes'⟩ := after opened u rest read
      refine ⟨cs ++ c :: (used ++ used'), by simp, fun fuel enough rest' same => ?_⟩
      simp only [List.length_append, List.length_cons] at enough
      obtain ⟨fuel, rfl⟩ : ∃ k, fuel = k + 1 := ⟨fuel - 1, by omega⟩
      have front := takes (used' ++ rest') (head?_append_congr used' same)
      have back := takes' fuel (by omega) rest' same
      simp only [List.append_assoc, List.cons_append, skipValueIn, again, front]
      exact back
    · split at read
      · rename_i bracket
        subst bracket
        obtain ⟨used, rfl, takes⟩ := into .list opened t rest read
        refine ⟨cs ++ '[' :: used, by simp, fun fuel enough rest' same => ?_⟩
        simp only [List.length_append, List.length_cons] at enough
        obtain ⟨fuel, rfl⟩ : ∃ k, fuel = k + 1 := ⟨fuel - 1, by omega⟩
        have back := takes fuel (by omega) rest' same
        simp only [List.append_assoc, List.cons_append, skipValueIn, again, skipScalar?_bracket]
        exact back
      · split at read
        · rename_i brace
          subst brace
          obtain ⟨used, rfl, takes⟩ := into .object opened t rest read
          refine ⟨cs ++ '{' :: used, by simp, fun fuel enough rest' same => ?_⟩
          simp only [List.length_append, List.length_cons] at enough
          obtain ⟨fuel, rfl⟩ : ∃ k, fuel = k + 1 := ⟨fuel - 1, by omega⟩
          have back := takes fuel (by omega) rest' same
          simp only [List.append_assoc, List.cons_append, skipValueIn, again, skipScalar?_brace]
          exact back
        · cases read

theorem fueled_skipInto {n : Nat} (value : ∀ opened, FueledSkip 0 (skipValueIn · opened) n)
    (after : ∀ opened, FueledSkip 0 (skipAfter · opened) n) (b : Bracket)
    (opened : List Bracket) : FueledSkip 1 (skipInto · b opened) (n + 1) := by
  intro s rest read
  dsimp only at read
  rw [skipInto] at read
  split at read
  · cases read
  · rename_i c t found
    obtain ⟨cs, -, rfl, again⟩ := skipBlank_mark found
    split at read
    · rename_i closer
      obtain ⟨used, rfl, takes⟩ := after opened t rest read
      refine ⟨cs ++ c :: used, by simp, fun fuel enough rest' same => ?_⟩
      simp only [List.length_append, List.length_cons] at enough
      obtain ⟨fuel, rfl⟩ : ∃ k, fuel = k + 1 := ⟨fuel - 1, by omega⟩
      have back := takes fuel (by omega) rest' same
      simp only [List.append_assoc, List.cons_append, skipInto, again, if_pos closer]
      exact back
    · rename_i goesOn
      rw [bind_eq_ok] at read
      obtain ⟨u, key, read⟩ := read
      obtain ⟨used, split, takes⟩ := skipKeyIn_tail b (c :: t) () u key
      obtain ⟨used', rfl, takes'⟩ := value (b :: opened) u rest read
      refine ⟨cs ++ (used ++ used'), by simp [split], fun fuel enough rest' same => ?_⟩
      simp only [List.length_append] at enough
      obtain ⟨fuel, rfl⟩ : ∃ k, fuel = k + 1 := ⟨fuel - 1, by omega⟩
      have front := takes (used' ++ rest') (head?_append_congr used' same)
      have back := takes' fuel (by omega) rest' same
      -- The text still begins with the character that was looked at.
      obtain ⟨t', begins⟩ : ∃ t', used ++ (used' ++ rest') = c :: t' := by
        have head : (used ++ (used' ++ rest')).head? = some c := by
          rw [head?_append_congr used (head?_append_congr used' same), ← split]
          rfl
        exact List.head?_eq_some_iff.mp head
      rw [begins] at front
      simp only [List.append_assoc, begins, skipInto, again, if_neg goesOn, front]
      exact back

theorem fueled_skipAfter {n : Nat} (value : ∀ opened, FueledSkip 0 (skipValueIn · opened) n)
    (after : ∀ opened, FueledSkip 0 (skipAfter · opened) n) (opened : List Bracket) :
    FueledSkip 0 (skipAfter · opened) (n + 1) := by
  intro s rest read
  dsimp only at read
  cases opened with
  | nil =>
    rw [skipAfter] at read
    cases read
    exact ⟨[], rfl, fun fuel _ rest' _ => by simp [skipAfter]⟩
  | cons b opened =>
    rw [skipAfter] at read
    split at read
    · cases read
    · rename_i c t found
      obtain ⟨cs, -, rfl, again⟩ := skipBlank_mark found
      split at read
      · rename_i closer
        obtain ⟨used, rfl, takes⟩ := after opened t rest read
        refine ⟨cs ++ c :: used, by simp, fun fuel enough rest' same => ?_⟩
        simp only [List.length_append, List.length_cons] at enough
        obtain ⟨fuel, rfl⟩ : ∃ k, fuel = k + 1 := ⟨fuel - 1, by omega⟩
        have back := takes fuel (by omega) rest' same
        simp only [List.append_assoc, List.cons_append, skipAfter, again, if_pos closer]
        exact back
      · rename_i goesOn
        split at read
        · rename_i comma
          rw [bind_eq_ok] at read
          obtain ⟨u, key, read⟩ := read
          obtain ⟨used, rfl, takes⟩ := skipKeyIn_tail b t () u key
          obtain ⟨used', rfl, takes'⟩ := value (b :: opened) u rest read
          refine ⟨cs ++ c :: (used ++ used'), by simp, fun fuel enough rest' same => ?_⟩
          simp only [List.length_append, List.length_cons] at enough
          obtain ⟨fuel, rfl⟩ : ∃ k, fuel = k + 1 := ⟨fuel - 1, by omega⟩
          have front := takes (used' ++ rest') (head?_append_congr used' same)
          have back := takes' fuel (by omega) rest' same
          simp only [List.append_assoc, List.cons_append, skipAfter, again, if_neg goesOn,
            if_pos comma, front]
          exact back
        · cases read

theorem fueledSkip (n : Nat) :
    (∀ opened, FueledSkip 0 (skipValueIn · opened) n) ∧
      (∀ b opened, FueledSkip 1 (skipInto · b opened) n) ∧
        ∀ opened, FueledSkip 0 (skipAfter · opened) n := by
  induction n with
  | zero =>
    refine ⟨fun opened s rest read => ?_, fun b opened s rest read => ?_,
      fun opened s rest read => ?_⟩
    · cases read
    · cases read
    · cases opened with
      | nil =>
        dsimp only at read
        rw [skipAfter] at read
        cases read
        exact ⟨[], rfl, fun fuel _ rest' _ => by simp [skipAfter]⟩
      | cons b opened => cases read
  | succ n ih =>
    obtain ⟨value, into, after⟩ := ih
    exact ⟨fueled_skipValue into after, fueled_skipInto value after, fueled_skipAfter value after⟩

theorem skipValue_tail : LocalTail passed skipValue := by
  intro s a rest read
  obtain ⟨used, split, takes⟩ := (fueledSkip _).1 [] s rest read
  refine ⟨used, split, fun rest' same => ?_⟩
  exact takes _ (by simp; omega) rest' same

end Backchannel.Json
