/-
# Backchannel.Proofs.Json.Around -- records between blanks

A record is written as an object or as a list, and where its fields are read without a look
beyond the next character (`Fields.IsLocal`), so is the record: it ends with its brace or its
bracket, whatever stands behind (`Decoder.record_enclosed`).  So the text of a record is what
it encloses between blanks, and between other blanks it is the text of the same record
(`Decoder.parse_enclosed`).
-/
import Backchannel.Proofs.Json.LocalValue

namespace Backchannel.Json

set_option autoImplicit false

open Backchannel.Except (bind_eq_ok map_eq_ok)

variable {α : Type} {s t rest : List Char}

/-! ## Scalars and names -/

/-- Wherever it is, the shape is read without a look beyond the next character. -/
def Decoder.IsLocal (d : Decoder α) : Prop := ∀ room, Local Prod.mk (d.ofText room)

theorem unexpected_ne_ok (expected : String) (s : List Char) (r : α) :
    unexpected expected s ≠ .ok r := by
  obtain ⟨fault, fails⟩ := unexpected_fails expected s (α := α)
  rw [fails]
  exact nofun

namespace Decoder

theorem value_isLocal : value.IsLocal := readValue_local

theorem text_isLocal : text.IsLocal := by
  intro room s a rest read
  dsimp only [text] at read
  split at read
  · rename_i t found
    obtain ⟨cs, -, rfl, again⟩ := skipBlank_mark found
    obtain ⟨used, -, rfl, takes⟩ := readText_local t a rest read
    refine ⟨cs ++ '"' :: used, by simp, by simp, fun rest' same => ?_⟩
    simp [text, again, takes rest' same]
  · exact absurd read (unexpected_ne_ok _ _ _)

theorem optional_isLocal {d : Decoder α} (h : d.IsLocal) : (optional d).IsLocal := by
  intro room s a rest read
  dsimp only [optional] at read
  split at read
  · rename_i t found
    obtain ⟨cs, -, rfl, again⟩ := skipBlank_mark found
    obtain ⟨used, -, rfl, takes⟩ := Local.word 'u' ['l', 'l'] none t a rest read
    refine ⟨cs ++ 'n' :: used, by simp, by simp, fun rest' same => ?_⟩
    simpa [optional, again] using takes rest' same
  · rename_i other
    obtain ⟨used, some, split, takes⟩ := (h room).map Option.some (skipBlank s) a rest read
    obtain ⟨c, used, rfl⟩ := List.exists_cons_of_ne_nil some
    obtain ⟨cs, -, behind, again⟩ := skipBlank_mark split
    refine ⟨cs ++ c :: used, by simp, by simpa using behind, fun rest' same => ?_⟩
    have plain : c ≠ 'n' := fun own => other _ (by rw [split, own]; rfl)
    simpa [optional, again, plain] using takes rest' same

theorem unitOfText_local : Local passed unitOfText := by
  intro s a rest read
  unfold unitOfText at read
  split at read
  · rename_i t found
    obtain ⟨cs, -, rfl, again⟩ := skipBlank_mark found
    obtain ⟨used, -, rfl, takes⟩ := readWord_local 'u' ['l', 'l'] t () rest read
    refine ⟨cs ++ 'n' :: used, by simp, by simp, fun rest' same => ?_⟩
    simpa [unitOfText, again] using takes rest' same
  · exact absurd read (unexpected_ne_ok _ _ _)

/-- An enumeration whose names mean what `resolve` says. -/
def nameOfText (resolve : String → Except Mismatch α) (room : Nat) (s : List Char) :
    Except Fault (α × List Char) :=
  match skipBlank s with
  | [] => malformed .endInValue (.before [])
  | '"' :: s => do
    let (name, s) ← readText s
    settle (resolve name) s
  | '{' :: s => do
    let _ ← openContainer room ('{' :: s)
    let (more, s) ← nextKey true s
    if more then
      let (name, s) ← readText s
      let (a, s) ← settle (resolve name) s
      let s ← readColon s
      let s ← unitOfText s
      match skipBlank s with
      | [] => malformed .endInObject (.before [])
      | '}' :: s => .ok (a, s)
      | s => malformed .valueExpected (.before s)
    else malformed .valueExpected (.behind s)
  | s => malformed .valueExpected (.behind s)

theorem settle_eq_ok {result : Except Mismatch α} {r : α × List Char} :
    settle result s = .ok r ↔ result = .ok r.1 ∧ r.2 = s := by
  unfold settle
  split
  · constructor
    · rintro ⟨⟩
      exact ⟨rfl, rfl⟩
    · rintro ⟨⟨⟩, rfl⟩
      rfl
  · simp [mismatched]

theorem openContainer_eq_ok {room room' : Nat} :
    openContainer room s = .ok room' ↔ room = room' + 1 := by
  cases room <;> simp [openContainer, malformed, eq_comm]

theorem nameOfText_local (resolve : String → Except Mismatch α) (room : Nat) :
    Local Prod.mk (nameOfText resolve room) := by
  intro s a rest read
  unfold nameOfText at read
  split at read
  · cases read
  · rename_i t found
    obtain ⟨cs, -, rfl, again⟩ := skipBlank_mark found
    rw [bind_eq_ok] at read
    obtain ⟨⟨name, u⟩, named, resolved⟩ := read
    obtain ⟨meant, rfl⟩ := settle_eq_ok.mp resolved
    obtain ⟨used, -, rfl, takes⟩ := readText_local t name _ named
    refine ⟨cs ++ '"' :: used, by simp, by simp, fun rest' same => ?_⟩
    simp [nameOfText, again, takes rest' same, meant, settle, bind, Except.bind]
  · rename_i t found
    obtain ⟨cs, -, rfl, again⟩ := skipBlank_mark found
    rw [bind_eq_ok] at read
    obtain ⟨inner, fits, read⟩ := read
    rw [bind_eq_ok] at read
    obtain ⟨⟨more, u⟩, next, read⟩ := read
    cases more with
    | false => cases read
    | true =>
      simp only [if_true, bind_eq_ok] at read
      obtain ⟨⟨name, v⟩, named, ⟨b, w⟩, resolved, x, colon, y, unit, read⟩ := read
      obtain ⟨meant, rfl⟩ := settle_eq_ok.mp resolved
      split at read
      · cases read
      · rename_i closed
        cases read
        obtain ⟨mark, -, rfl, more⟩ := nextKey_more next
        obtain ⟨used, -, rfl, takes⟩ := readText_local u name _ named
        obtain ⟨used₁, some₁, rfl, takes₁⟩ := readColon_local _ () x colon
        obtain ⟨used₂, some₂, rfl, takes₂⟩ := unitOfText_local x () y unit
        obtain ⟨ds, -, rfl, brace⟩ := skipBlank_mark closed
        refine ⟨cs ++ '{' :: (mark ++ (used ++ (used₁ ++ (used₂ ++ (ds ++ ['}']))))), by simp,
          by simp, fun rest' _ => ?_⟩
        have end_ : (ds ++ '}' :: rest').head? = (ds ++ '}' :: rest).head? :=
          head?_append_congr ds rfl
        have key := takes (used₁ ++ (used₂ ++ (ds ++ '}' :: rest')))
          (head?_append_ne_nil some₁ _)
        have colon' := takes₁ (used₂ ++ (ds ++ '}' :: rest')) (head?_append_ne_nil some₂ _)
        have unit' := takes₂ (ds ++ '}' :: rest') end_
        simp only [passed] at colon' unit'
        simp only [openContainer_eq_ok] at fits
        simp [nameOfText, again, openContainer, fits, more, key, meant, settle, colon', unit', brace,
          bind, Except.bind]
      · cases read
  · cases read

theorem oneOf_isLocal (names : List (String × α)) (other : Option α) :
    (oneOf names other).IsLocal := by
  intro room
  exact nameOfText_local (fun name => (oneOf names other).ofValue (.text name)) room

end Decoder

/-! ## Records -/

/-- The value behind a key. -/
def readAt (room : Nat) (s : List Char) {α : Type} (shape : Decoder α) :
    Except Fault (α × List Char) := do
  let s ← readColon s
  shape.ofText room s

theorem readAt_local {shape : Decoder α} (h : shape.IsLocal) (room : Nat) :
    Local Prod.mk (readAt room · shape) := by
  intro s a rest read
  dsimp only [readAt] at read
  rw [bind_eq_ok] at read
  obtain ⟨t, colon, read⟩ := read
  obtain ⟨used, some, rfl, takes⟩ := readColon_local s () t colon
  obtain ⟨used', some', rfl, takes'⟩ := h room t a rest read
  refine ⟨used ++ used', by simp [some], by simp, fun rest' same => ?_⟩
  have front := takes (used' ++ rest') (head?_append_ne_nil some' rest')
  have back := takes' rest' same
  simp only [passed] at front
  simp [readAt, front, back, bind, Except.bind]

namespace Fields

variable {τ σ : Type} {fs : Fields τ σ} {slots slots' : σ} {key : String} {room : Nat}

/-- All fields of a record are read without a look beyond the next character. -/
def IsLocal : {τ σ : Type} → Fields τ σ → Prop
  | _, _, .done => True
  | _, _, .field _ shape _ rest => shape.IsLocal ∧ rest.IsLocal

theorem offer_local (h : fs.IsLocal)
    (offered : fs.offer key (readAt room s) slots = .known (.ok (slots', rest))) :
    ∃ used, used ≠ [] ∧ s = used ++ rest ∧ ∀ rest', rest'.head? = rest.head? →
      fs.offer key (readAt room (used ++ rest')) slots = .known (.ok (slots', rest')) := by
  induction fs with
  | done => cases offered
  | field name shape default others ih =>
    obtain ⟨slot, slots⟩ := slots
    obtain ⟨slot', slots'⟩ := slots'
    by_cases own : name = key
    · cases slot with
      | some before => simp [offer, own] at offered
      | none =>
        simp only [offer, if_pos own, Offer.known.injEq] at offered
        obtain ⟨⟨a, t⟩, read, same⟩ := map_eq_ok.mp offered
        cases same
        obtain ⟨used, some, split, takes⟩ := readAt_local h.1 room s a _ read
        refine ⟨used, some, split, fun rest' same => ?_⟩
        have again : readAt room (used ++ rest') shape = .ok (a, rest') := takes rest' same
        simp [offer, own, again, Except.map]
    · simp only [offer, if_neg own] at offered
      split at offered
      · cases offered
      · cases offered
      · rename_i result known
        obtain ⟨⟨after, t⟩, rfl, same⟩ := map_eq_ok.mp (Offer.known.inj offered)
        cases same
        obtain ⟨used, some, split, takes⟩ := ih h.2 known
        refine ⟨used, some, split, fun rest' same => ?_⟩
        simp [offer, own, takes rest' same, Except.map]

/-- Whether a record knows a key does not depend on what stands behind it. -/
theorem offer_unknown {ε ρ ε' ρ' : Type} {read : {α : Type} → Decoder α → Except ε (α × ρ)}
    (read' : {α : Type} → Decoder α → Except ε' (α × ρ'))
    (offered : fs.offer key read slots = .unknown) : fs.offer key read' slots = .unknown := by
  induction fs with
  | done => rfl
  | field name shape default others ih =>
    obtain ⟨slot, slots⟩ := slots
    by_cases own : name = key
    · cases slot <;> simp [offer, own] at offered
    · simp only [offer, if_neg own] at offered ⊢
      split at offered
      · rename_i unknown
        rw [ih unknown]
      · cases offered
      · cases offered

theorem membersOfText_more {n : Nat} {first : Bool} {u : List Char}
    (next : nextKey first s = .ok (true, t)) (named : readText t = .ok (key, u)) :
    fs.membersOfText room (n + 1) first slots s =
      match fs.offer key (readAt room u) slots with
      | .unknown =>
        readColon u >>= fun s => skipValue s >>= fun s => fs.membersOfText room n false slots s
      | .repeated => mismatched (.repeatedField key) (afterObject u)
      | .known result => result >>= fun r => fs.membersOfText room n false r.1 r.2 := by
  rw [membersOfText, next]
  simp only [bind, Except.bind, if_true, named]
  rfl

/-- The members of an object up to its brace, whatever stands behind that. -/
theorem membersOfText_local (h : fs.IsLocal) (n : Nat) {first : Bool} {a : τ}
    (read : fs.membersOfText room n first slots s = .ok (a, rest)) :
    ∃ used u, rest = '}' :: u ∧ s = used ++ rest ∧ ∀ fuel u', used.length < fuel →
      fs.membersOfText room fuel first slots (used ++ '}' :: u') = .ok (a, '}' :: u') := by
  induction n generalizing first slots s with
  | zero => cases read
  | succ n ih =>
    have parts := read
    rw [membersOfText, bind_eq_ok] at parts
    obtain ⟨⟨more, t⟩, next, parts⟩ := parts
    cases more with
    | false =>
      obtain ⟨cs, u, rfl, rfl, again⟩ := nextKey_end next
      simp only [Bool.false_eq_true, if_false] at parts
      split at parts
      · rename_i finished
        cases parts
        refine ⟨cs, u, rfl, rfl, fun fuel u' enough => ?_⟩
        obtain ⟨fuel, rfl⟩ : ∃ k, fuel = k + 1 := ⟨fuel - 1, by omega⟩
        rw [membersOfText, again]
        simp [bind, Except.bind, finished]
      · cases parts
    | true =>
      obtain ⟨mark, -, rfl, again⟩ := nextKey_more next
      simp only [if_true, bind_eq_ok] at parts
      obtain ⟨⟨key, v⟩, named, -⟩ := parts
      obtain ⟨used, some, rfl, takes⟩ := readText_local t key v named
      rw [membersOfText_more next named] at read
      split at read
      · rename_i unknown
        simp only [bind_eq_ok] at read
        obtain ⟨w, colon, x, skipped, read⟩ := read
        obtain ⟨used₁, some₁, rfl, takes₁⟩ := readColon_local v () w colon
        obtain ⟨used₂, rfl, takes₂⟩ := skipValue_tail w () x skipped
        obtain ⟨used₃, u, rfl, rfl, takes₃⟩ := ih read
        refine ⟨mark ++ (used ++ (used₁ ++ (used₂ ++ used₃))), u, rfl, by simp, ?_⟩
        intro fuel u' enough
        simp only [List.length_append] at enough
        have size := List.length_pos_iff.mpr some
        obtain ⟨fuel, rfl⟩ : ∃ k, fuel = k + 1 := ⟨fuel - 1, by omega⟩
        have behind : (used₃ ++ '}' :: u').head? = (used₃ ++ '}' :: u).head? :=
          head?_append_congr used₃ rfl
        have key' := takes (used₁ ++ (used₂ ++ (used₃ ++ '}' :: u')))
          (head?_append_ne_nil some₁ _)
        have colon' := takes₁ (used₂ ++ (used₃ ++ '}' :: u')) (head?_append_congr used₂ behind)
        have skipped' := takes₂ (used₃ ++ '}' :: u') behind
        have back := takes₃ fuel u' (by omega)
        simp only [passed] at colon' skipped'
        simp only [List.append_assoc]
        rw [membersOfText_more (again _) key', offer_unknown _ unknown]
        simp only [bind, Except.bind, colon', skipped', back]
      · cases read
      · rename_i result known
        rw [bind_eq_ok] at read
        obtain ⟨⟨slots', x⟩, rfl, read⟩ := read
        obtain ⟨used₁, some₁, rfl, takes₁⟩ := offer_local h known
        obtain ⟨used₂, u, rfl, rfl, takes₂⟩ := ih read
        refine ⟨mark ++ (used ++ (used₁ ++ used₂)), u, rfl, by simp, ?_⟩
        intro fuel u' enough
        simp only [List.length_append] at enough
        have size := List.length_pos_iff.mpr some
        obtain ⟨fuel, rfl⟩ : ∃ k, fuel = k + 1 := ⟨fuel - 1, by omega⟩
        have key' := takes (used₁ ++ (used₂ ++ '}' :: u')) (head?_append_ne_nil some₁ _)
        have offered := takes₁ (used₂ ++ '}' :: u') (head?_append_congr used₂ rfl)
        have back := takes₂ fuel u' (by omega)
        simp only [List.append_assoc]
        rw [membersOfText_more (again _) key', offered]
        exact back

/-- The fields that stand in a list, up to what follows the last of them. -/
theorem itemsOfText_tail (h : fs.IsLocal) (expected : String) (index : Nat) (first : Bool) :
    LocalTail Prod.mk (fs.itemsOfText expected room index first) := by
  induction fs generalizing index first with
  | done =>
    intro s a rest read
    cases read
    exact ⟨[], rfl, fun rest' _ => rfl⟩
  | field name shape default others ih =>
    intro s values rest read
    rw [itemsOfText, bind_eq_ok] at read
    obtain ⟨⟨more, t⟩, next, read⟩ := read
    cases more with
    | false =>
      obtain ⟨cs, u, rfl, rfl, again⟩ := nextItem_end next
      cases default with
      | none => cases read
      | some a =>
        simp only [Bool.false_eq_true, if_false, bind_eq_ok] at read
        obtain ⟨⟨b, _⟩, rest_, same⟩ := read
        cases same
        obtain ⟨used, split, takes⟩ := ih h.2 (index + 1) first _ b _ rest_
        refine ⟨cs ++ used, by simp [split], fun rest' same => ?_⟩
        have back := takes rest' same
        obtain ⟨u', bracket⟩ : ∃ u', used ++ rest' = ']' :: u' := by
          have head : (used ++ rest').head? = some ']' := by
            rw [head?_append_congr used same, ← split]
            rfl
          exact List.head?_eq_some_iff.mp head
        rw [bracket] at back
        rw [List.append_assoc, bracket, itemsOfText, again]
        simp [bind, Except.bind, back, pure, Except.pure]
    | true =>
      obtain ⟨mark, rfl, again⟩ := nextItem_more next
      simp only [if_true, bind_eq_ok] at read
      obtain ⟨⟨a, u⟩, own, ⟨b, _⟩, rest_, same⟩ := read
      cases same
      obtain ⟨used, some, rfl, takes⟩ := h.1 room t a u own
      obtain ⟨used', rfl, takes'⟩ := ih h.2 (index + 1) false u b _ rest_
      refine ⟨mark ++ (used ++ used'), by simp, fun rest' same => ?_⟩
      have behind := head?_append_congr used' same
      have front := again (used ++ (used' ++ rest')) (head?_append_congr used behind)
      have middle := takes (used' ++ rest') behind
      have back := takes' rest' same
      simp only [List.append_assoc]
      rw [itemsOfText, front]
      simp [bind, Except.bind, middle, back, pure, Except.pure]

end Fields

theorem closeList_ok (closed : closeList s = .ok rest) :
    ∃ cs, s = cs ++ ']' :: rest ∧ ∀ rest', closeList (cs ++ ']' :: rest') = .ok rest' := by
  unfold closeList at closed
  split at closed
  · cases closed
  · rename_i found
    cases closed
    obtain ⟨cs, -, split, again⟩ := skipBlank_mark found
    exact ⟨cs, split, fun rest' => by simp [closeList, again]⟩
  · split at closed <;> cases closed
  · cases closed

/-- A text between braces or brackets. -/
def Enclosed (cs : List Char) : Prop :=
  ∃ body, cs = '{' :: body ++ ['}'] ∨ cs = '[' :: body ++ [']']

namespace Decoder

variable {τ σ : Type} {fs : Fields τ σ} {room : Nat} {r : α}

/-- A record is enclosed, and neither the blanks before it nor anything behind it matter. -/
theorem record_enclosed (h : fs.IsLocal) {name : String} {build : τ → α}
    (read : (record name fs build).ofText room s = .ok (r, rest)) :
    ∃ cs inside, Blanks cs ∧ Enclosed inside ∧ s = cs ++ (inside ++ rest) ∧
      ∀ cs' rest', Blanks cs' →
        (record name fs build).ofText room (cs' ++ (inside ++ rest')) = .ok (r, rest') := by
  dsimp only [record] at read
  split at read
  · rename_i t found
    obtain ⟨cs, blank, rfl, -⟩ := skipBlank_mark found
    simp only [bind_eq_ok] at read
    obtain ⟨inner, fits, ⟨a, u⟩, members, same⟩ := read
    cases same
    obtain ⟨used, u, rfl, rfl, takes⟩ := Fields.membersOfText_local h _ members
    refine ⟨cs, '{' :: used ++ ['}'], blank, ⟨used, .inl rfl⟩, by simp, fun cs' rest' blank' => ?_⟩
    have opened : skipBlank (cs' ++ ('{' :: used ++ ['}'] ++ rest')) =
        '{' :: (used ++ '}' :: rest') := by
      rw [skipBlank_blanks blank', List.append_assoc]
      rfl
    have back := takes ((used ++ '}' :: rest').length + 1) rest'
      (by simp only [List.length_append, List.length_cons]; omega)
    rw [openContainer_eq_ok] at fits
    simp only [record, opened, fits, openContainer, bind, Except.bind, back]
    rfl
  · rename_i t found
    obtain ⟨cs, blank, rfl, -⟩ := skipBlank_mark found
    simp only [bind_eq_ok] at read
    obtain ⟨inner, fits, ⟨a, u⟩, items, v, closed, same⟩ := read
    cases same
    obtain ⟨used, rfl, takes⟩ := Fields.itemsOfText_tail h _ 0 true t a u items
    obtain ⟨ds, rfl, bracket⟩ := closeList_ok closed
    refine ⟨cs, '[' :: (used ++ ds) ++ [']'], blank, ⟨used ++ ds, .inr rfl⟩, by simp,
      fun cs' rest' blank' => ?_⟩
    have opened : skipBlank (cs' ++ ('[' :: (used ++ ds) ++ [']'] ++ rest')) =
        '[' :: (used ++ (ds ++ ']' :: rest')) := by
      rw [skipBlank_blanks blank']
      simp [skipBlank, isJsonBlank]
    have back := takes (ds ++ ']' :: rest') (head?_append_congr ds rfl)
    rw [openContainer_eq_ok] at fits
    simp only [record, opened, fits, openContainer, bind, Except.bind, back, bracket]
    rfl
  · exact absurd read (unexpected_ne_ok _ _ _)

/-! ## Whole texts -/

theorem skipBlank_eq_nil : skipBlank s = [] ↔ Blanks s := by
  constructor
  · intro nothing
    obtain ⟨cs, blank, split⟩ := skipBlank_split s
    rw [split, nothing, List.append_nil]
    exact blank
  · intro blank
    simpa [skipBlank] using skipBlank_blanks blank []

theorem expectEnd_eq_ok : expectEnd s = .ok () ↔ Blanks s := by
  rw [← skipBlank_eq_nil]
  unfold expectEnd
  split
  · rename_i nothing
    simp [nothing]
  · rename_i something
    exact ⟨nofun, fun nothing => (something nothing).elim⟩

/-- A text writes a value of the shape and has nothing but blanks behind it. -/
theorem parse_eq_ok {d : Decoder α} :
    d.parse (String.ofList s) = .ok r ↔
      ∃ rest, d.ofText nestingLimit s = .ok (r, rest) ∧ Blanks rest := by
  have whole : d.parse (String.ofList s) = .ok r ↔
      readWhole (d.ofText nestingLimit) s = .ok r := by
    rw [parse, String.toList_ofList]
    cases readWhole (d.ofText nestingLimit) s with
    | ok a =>
      constructor
      · rintro ⟨⟩
        rfl
      · rintro ⟨⟩
        rfl
    | error fault =>
      constructor
      · rintro ⟨⟩
      · rintro ⟨⟩
  rw [whole]
  simp only [readWhole, bind_eq_ok]
  constructor
  · rintro ⟨⟨a, rest⟩, read, ⟨⟩, ends, same⟩
    cases same
    exact ⟨rest, read, expectEnd_eq_ok.mp ends⟩
  · rintro ⟨rest, read, blank⟩
    exact ⟨(r, rest), read, (), expectEnd_eq_ok.mpr blank, rfl⟩

/-- The text of a record is enclosed, and it is the same record between any blanks. -/
theorem parse_enclosed (h : fs.IsLocal) {name : String} {build : τ → α}
    (read : (record name fs build).parse (String.ofList s) = .ok r) :
    ∃ pre inside post, Blanks pre ∧ Enclosed inside ∧ Blanks post ∧
      s = pre ++ (inside ++ post) ∧ ∀ pre' post', Blanks pre' → Blanks post' →
        (record name fs build).parse (String.ofList (pre' ++ (inside ++ post'))) = .ok r := by
  obtain ⟨post, read, blank⟩ := parse_eq_ok.mp read
  obtain ⟨pre, inside, blank', enclosed, split, takes⟩ := record_enclosed h read
  refine ⟨pre, inside, post, blank', enclosed, blank, split, ?_⟩
  intro pre' post' before after
  exact parse_eq_ok.mpr ⟨post', takes pre' post' before, after⟩

end Decoder

end Backchannel.Json
