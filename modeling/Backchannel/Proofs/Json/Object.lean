/-
# Backchannel.Proofs.Json.Object -- records read from objects

In an object each key stands once, so a record is read from it field by field: a field is
read from the member of its name, wherever that stands, and where there is none it takes its
default or is absent (`Fields.ofMembers_iff`).  Members that name no field do not matter.

`Fields.Yields` states this for any way to find a value by its name, and for fields some of
which were read before.
-/
import Backchannel.Proofs.Json.Record

namespace Backchannel.Json

set_option autoImplicit false

/-! ## Members -/

namespace Members

/-- The keys stand in their order, each once. -/
def Sorted (ms : Members) : Prop := (ms.map Prod.fst).Pairwise (· < ·)

variable {ms : Members} {key : String}

theorem get?_insert (key other : String) (v : Value) (ms : Members) :
    get? other (insert key v ms) = if key = other then some v else get? other ms := by
  induction ms with
  | nil => rfl
  | cons entry ms ih =>
    obtain ⟨k, w⟩ := entry
    rw [insert]
    split
    · rfl
    split
    · rename_i same
      subst same
      simp only [get?]
      split <;> rfl
    · rename_i apart
      simp only [get?, ih]
      split
      · rename_i own
        rw [if_neg (own ▸ apart)]
      · rfl

/-- Where a member goes, only its key is new. -/
theorem mem_insert {k : String} {v : Value} (among : k ∈ (insert key v ms).map Prod.fst) :
    k = key ∨ k ∈ ms.map Prod.fst := by
  induction ms with
  | nil => exact .inl (by simpa [insert] using among)
  | cons entry ms ih =>
    obtain ⟨l, w⟩ := entry
    rw [insert] at among
    split at among
    · simpa using among
    split at among
    · rename_i same
      subst same
      simpa using among
    · rcases List.mem_cons.mp among with first | later
      · exact .inr (by simp [first])
      · exact (ih later).imp_right (List.mem_cons_of_mem _)

theorem Sorted.insert (sorted : ms.Sorted) (key : String) (v : Value) :
    (Members.insert key v ms).Sorted := by
  induction ms with
  | nil => exact List.pairwise_singleton _ _
  | cons entry ms ih =>
    obtain ⟨k, w⟩ := entry
    obtain ⟨least, rest⟩ := List.pairwise_cons.mp sorted
    rw [Members.insert]
    split
    · rename_i before
      refine List.pairwise_cons.mpr ⟨fun l among => ?_, sorted⟩
      rcases List.mem_cons.mp among with rfl | later
      · exact before
      · exact String.lt_trans before (least l later)
    split
    · rename_i same
      subst same
      exact sorted
    · rename_i before apart
      refine List.pairwise_cons.mpr ⟨fun l among => ?_, ih rest⟩
      rcases mem_insert among with rfl | later
      · refine Decidable.byContradiction fun behind => apart ?_
        exact String.le_antisymm (String.not_lt.mp behind) (String.not_lt.mp before)
      · exact least l later

theorem sorted_foldl (entries : List (String × Value)) (sorted : ms.Sorted) :
    (entries.foldl (fun members entry => insert entry.1 entry.2 members) ms).Sorted := by
  induction entries generalizing ms with
  | nil => exact sorted
  | cons entry entries ih => exact ih (sorted.insert entry.1 entry.2)

theorem sorted_ofList (entries : List (String × Value)) : (ofList entries).Sorted :=
  sorted_foldl entries List.Pairwise.nil

theorem Sorted.nodup (sorted : ms.Sorted) : (ms.map Prod.fst).Nodup := by
  refine List.Pairwise.imp (R := (· < ·)) ?_ sorted
  rintro k _ before rfl
  exact String.lt_irrefl k before

theorem get?_eq_none (absent : key ∉ ms.map Prod.fst) : get? key ms = none := by
  induction ms with
  | nil => rfl
  | cons entry ms ih =>
    obtain ⟨k, v⟩ := entry
    have apart : k ≠ key := fun same => absent (by simp [same])
    rw [get?, if_neg apart]
    exact ih fun among => absent (List.mem_cons_of_mem _ among)

/-- Of members with distinct keys each is found by its own. -/
theorem get?_of_mem (distinct : (ms.map Prod.fst).Nodup) {v : Value} (listed : (key, v) ∈ ms) :
    get? key ms = some v := by
  induction ms with
  | nil => cases listed
  | cons entry ms ih =>
    obtain ⟨first, rest⟩ := List.nodup_cons.mp distinct
    rcases List.mem_cons.mp listed with rfl | later
    · exact if_pos rfl
    · have apart : entry.1 ≠ key := by
        rintro rfl
        exact first (List.mem_map.mpr ⟨(entry.1, v), later, rfl⟩)
      exact (if_neg apart).trans (ih rest later)

theorem get?_foldl {entries : List (String × Value)} (distinct : (entries.map Prod.fst).Nodup)
    (key : String) (ms : Members) :
    get? key (entries.foldl (fun members entry => insert entry.1 entry.2 members) ms) =
      (get? key entries).or (get? key ms) := by
  induction entries generalizing ms with
  | nil => rfl
  | cons entry entries ih =>
    obtain ⟨k, v⟩ := entry
    obtain ⟨first, rest⟩ := List.nodup_cons.mp distinct
    rw [List.foldl_cons, ih rest, get?_insert, get?]
    split
    · rename_i own
      subst own
      rw [get?_eq_none first]
      rfl
    · rfl

/-- Members with distinct keys are found by them, in whatever order they came. -/
theorem get?_ofList {entries : List (String × Value)} (distinct : (entries.map Prod.fst).Nodup)
    (key : String) : get? key (ofList entries) = get? key entries := by
  rw [ofList, get?_foldl distinct]
  cases get? key entries <;> rfl

end Members

/-! ## Fields -/

/-- What a field of this shape becomes that is found or not: one that is not takes its default,
or is absent if its shape allows that. -/
def Decoder.Takes {α : Type} (d : Decoder α) (default : Option α) : Option Value → α → Prop
  | none, a => default.or d.absent = some a
  | some v, a => d.ofValue v = .ok a

@[simp]
theorem Decoder.takes_none {α : Type} (d : Decoder α) (default : Option α) (a : α) :
    d.Takes default none a ↔ default.or d.absent = some a := Iff.rfl

@[simp]
theorem Decoder.takes_some {α : Type} (d : Decoder α) (default : Option α) (v : Value) (a : α) :
    d.Takes default (some v) a ↔ d.ofValue v = .ok a := Iff.rfl

namespace Fields

variable {τ σ : Type}

def names : {τ σ : Type} → Fields τ σ → List String
  | _, _, .done => []
  | _, _, .field name _ _ rest => name :: rest.names

/-- What comes of the fields when each is read from what `find` has for its name.  What was
read before stands, but is not read twice. -/
def Yields : {τ σ : Type} → Fields τ σ → σ → (String → Option Value) → τ → Prop
  | _, _, .done, _, _, _ => True
  | _, _, .field name shape default rest, (slot, slots), find, (a, b) =>
    (match slot with
      | none => shape.Takes default (find name) a
      | some before => find name = none ∧ before = a) ∧ rest.Yields slots find b

theorem finish_iff {fs : Fields τ σ} {slots : σ} {values : τ} :
    fs.finish slots = .ok values ↔ fs.Yields slots (fun _ => none) values := by
  induction fs with
  | done => exact ⟨fun _ => trivial, fun _ => rfl⟩
  | field name shape default rest ih =>
    obtain ⟨slot, slots⟩ := slots
    obtain ⟨a, b⟩ := values
    have both (c : _) : ((rest.finish slots).bind fun d => Except.ok (c, d)) = .ok (a, b) ↔
        c = a ∧ rest.Yields slots (fun _ => none) b := by
      rw [← ih]
      cases rest.finish slots <;> simp [Except.bind]
    cases slot with
    | some before => exact (both before).trans (by simp [Yields])
    | none =>
      cases default with
      | some fallback => exact (both fallback).trans (by simp [Yields])
      | none =>
        simp only [Fields.finish, Yields, Decoder.takes_none, Option.none_or]
        cases shape.absent with
        | some fallback => exact (both fallback).trans (by simp)
        | none => exact iff_of_false (by rintro ⟨⟩) (by simp)

/-- Only what is found for the names of the fields matters. -/
theorem yields_congr {fs : Fields τ σ} {slots : σ} {find find' : String → Option Value}
    {values : τ} (same : ∀ name ∈ fs.names, find name = find' name) :
    fs.Yields slots find values ↔ fs.Yields slots find' values := by
  induction fs with
  | done => exact Iff.rfl
  | field name shape default rest ih =>
    obtain ⟨slot, slots⟩ := slots
    obtain ⟨a, b⟩ := values
    simp only [Yields, same name (by simp [names]),
      ih fun other among => same other (by simp [names, among])]

/-- What is found once the value of a member is there, too. -/
def found (key : String) (v : Value) (find : String → Option Value) (name : String) :
    Option Value := if key = name then some v else find name

theorem found_of_ne {key : String} {names : List String} (apart : key ∉ names) (v : Value)
    (find : String → Option Value) : ∀ name ∈ names, found key v find name = find name := by
  intro name among
  exact if_neg fun (same : key = name) => apart (same ▸ among)

/-- What a member comes to that is offered to the fields, given what else will be found. -/
def Answers (fs : Fields τ σ) (slots : σ) (key : String) (v : Value)
    (find : String → Option Value) : Offer Mismatch (σ × Unit) → Prop
  | .unknown => key ∉ fs.names
  | .repeated => ∀ values, ¬ fs.Yields slots (found key v find) values
  | .known (.error _) => ∀ values, ¬ fs.Yields slots (found key v find) values
  | .known (.ok (slots', ())) =>
    ∀ values, fs.Yields slots (found key v find) values ↔ fs.Yields slots' find values

/-- A member that is offered goes to the field of its name. -/
theorem offer_answers {fs : Fields τ σ} (distinct : fs.names.Nodup) {slots : σ} {key : String}
    {v : Value} {find : String → Option Value} (absent : find key = none) :
    fs.Answers slots key v find (fs.offer key (fun shape => (shape.ofValue v).map (·, ())) slots) := by
  induction fs with
  | done => exact List.not_mem_nil
  | field name shape default rest ih =>
    obtain ⟨slot, slots⟩ := slots
    obtain ⟨first, later⟩ := List.nodup_cons.mp distinct
    simp only [offer]
    split
    · rename_i own
      subst own
      have others (b : _) : rest.Yields slots (found name v find) b ↔ rest.Yields slots find b :=
        yields_congr (found_of_ne first v find)
      have here : found name v find name = some v := if_pos rfl
      cases slot with
      | some before =>
        rintro ⟨a, b⟩ ⟨twice, -⟩
        exact absurd (here.symm.trans twice.1) (Option.some_ne_none v)
      | none =>
        cases read : shape.ofValue v with
        | error how =>
          rintro ⟨a, b⟩ ⟨own, -⟩
          rw [here] at own
          cases read.symm.trans own
        | ok c =>
          rintro ⟨a, b⟩
          simp only [Yields, here, absent, Decoder.takes_some, read, others, Except.ok.injEq,
            true_and]
    · rename_i apart
      have here : found key v find name = find name := if_neg (Ne.symm apart)
      have own : rest.Answers slots key v find
          (rest.offer key (fun shape => (shape.ofValue v).map (·, ())) slots) := ih later
      generalize rest.offer key _ slots = offered at own
      cases offered with
      | unknown =>
        intro among
        rcases List.mem_cons.mp among with same | among
        · exact apart same.symm
        · exact own among
      | repeated =>
        rintro ⟨a, b⟩ ⟨-, rest⟩
        exact own b rest
      | known result =>
        cases result with
        | error how =>
          rintro ⟨a, b⟩ ⟨-, rest⟩
          exact own b rest
        | ok filled =>
          rintro ⟨a, b⟩
          simp only [Yields, here, own b]

/-- An object whose keys are distinct is read field by field. -/
theorem ofMembers_iff {fs : Fields τ σ} (distinct : fs.names.Nodup) {members : Members}
    (keys : (members.map Prod.fst).Nodup) {slots : σ} {values : τ} :
    fs.ofMembers members slots = .ok values ↔
      fs.Yields slots (Members.get? · members) values := by
  induction members generalizing slots with
  | nil => exact finish_iff
  | cons member members ih =>
    obtain ⟨key, v⟩ := member
    obtain ⟨first, rest⟩ := List.nodup_cons.mp keys
    have answers : fs.Answers slots key v (Members.get? · members) _ :=
      offer_answers distinct (Members.get?_eq_none first)
    change _ ↔ fs.Yields slots (found key v (Members.get? · members)) values
    rw [ofMembers]
    generalize fs.offer key _ slots = offered at answers
    cases offered with
    | unknown => exact (ih rest).trans (yields_congr (found_of_ne answers v _)).symm
    | repeated => exact iff_of_false (by simp) (answers values)
    | known result =>
      cases result with
      | error how => exact iff_of_false (by simp) (answers values)
      | ok filled => exact (ih rest).trans (answers values).symm

end Fields

/-- A record is read from an object as its fields are found in it. -/
theorem Decoder.record_object_iff {τ σ α : Type} {label : String} {fs : Fields τ σ}
    {build : τ → α} (distinct : fs.names.Nodup) {members : Members}
    (keys : (members.map Prod.fst).Nodup) {r : α} :
    (Decoder.record label fs build).ofValue (.object members) = .ok r ↔
      ∃ values, fs.Yields fs.empty (Members.get? · members) values ∧ build values = r := by
  change (fs.ofMembers members fs.empty).map build = .ok r ↔ _
  simp only [Except.map_eq_ok, Fields.ofMembers_iff distinct keys]

end Backchannel.Json
