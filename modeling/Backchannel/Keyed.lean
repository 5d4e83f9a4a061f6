/-
# Backchannel.Keyed -- values under keys

A finite map as the list of its entries, in the order in which they were put in.
`get?` is its view: what each operation does is said by its effect on `get?`.
-/

namespace Backchannel

set_option autoImplicit false

/-- The entries of a finite map. -/
abbrev Keyed (κ α : Type) := List (κ × α)

namespace Keyed

variable {κ α : Type} [DecidableEq κ]

def get? (key : κ) : Keyed κ α → Option α
  | [] => none
  | (k, a) :: rest => if k = key then some a else get? key rest

def contains (key : κ) (m : Keyed κ α) : Bool := (get? key m).isSome

/-- Removes what is under a key. -/
def erase (key : κ) (m : Keyed κ α) : Keyed κ α := m.filter fun e => e.1 ≠ key

/-- Puts a value under a key, behind all others. -/
def insert (key : κ) (a : α) (m : Keyed κ α) : Keyed κ α := erase key m ++ [(key, a)]

/-- Changes what is under a key. -/
def modify (key : κ) (f : α → α) (m : Keyed κ α) : Keyed κ α :=
  m.map fun e => if e.1 = key then (e.1, f e.2) else e

def keys (m : Keyed κ α) : List κ := m.map Prod.fst

@[simp] theorem get?_nil (key : κ) : get? key ([] : Keyed κ α) = none := rfl

theorem get?_cons (key k : κ) (a : α) (m : Keyed κ α) :
    get? key ((k, a) :: m) = if k = key then some a else get? key m := rfl

theorem get?_append (key : κ) (m n : Keyed κ α) :
    get? key (m ++ n) = (get? key m).or (get? key n) := by
  induction m with
  | nil => simp
  | cons e m ih =>
    obtain ⟨k, a⟩ := e
    by_cases h : k = key <;> simp [get?, h, ih]

theorem get?_erase (key other : κ) (m : Keyed κ α) :
    get? key (erase other m) = if other = key then none else get? key m := by
  induction m with
  | nil => simp [erase]
  | cons e m ih =>
    obtain ⟨k, a⟩ := e
    simp only [erase] at ih
    by_cases h : k = other <;> by_cases hk : k = key <;> by_cases ho : other = key <;>
      simp_all [erase, get?]

@[simp] theorem get?_erase_self (key : κ) (m : Keyed κ α) : get? key (erase key m) = none := by
  simp [get?_erase]

theorem get?_insert (key other : κ) (a : α) (m : Keyed κ α) :
    get? key (insert other a m) = if other = key then some a else get? key m := by
  by_cases h : other = key <;> simp [insert, get?_append, get?_erase, get?_cons, h]

@[simp] theorem get?_insert_self (key : κ) (a : α) (m : Keyed κ α) :
    get? key (insert key a m) = some a := by
  simp [get?_insert]

theorem get?_modify (key other : κ) (f : α → α) (m : Keyed κ α) :
    get? key (modify other f m) = if other = key then (get? key m).map f else get? key m := by
  induction m with
  | nil => simp [modify]
  | cons e m ih =>
    obtain ⟨k, a⟩ := e
    simp only [modify] at ih
    by_cases h : k = other <;> by_cases hk : k = key <;> by_cases ho : other = key <;>
      simp_all [modify, get?]

/-! ## Keys -/

theorem mem_keys_iff {key : κ} {m : Keyed κ α} : key ∈ keys m ↔ (get? key m).isSome := by
  induction m with
  | nil => simp [keys]
  | cons e m ih =>
    obtain ⟨k, a⟩ := e
    by_cases h : k = key
    · simp [keys, get?, h]
    · simpa [keys, get?, h, Ne.symm h] using ih

theorem keys_erase (key : κ) (m : Keyed κ α) :
    keys (erase key m) = (keys m).filter fun k => k ≠ key := by
  simp only [keys, erase, List.filter_map]
  rfl

theorem nodup_keys_erase {m : Keyed κ α} (h : (keys m).Nodup) (key : κ) :
    (keys (erase key m)).Nodup := by
  rw [keys_erase]
  exact h.filter _

theorem nodup_keys_insert {m : Keyed κ α} (h : (keys m).Nodup) (key : κ) (a : α) :
    (keys (insert key a m)).Nodup := by
  have split : keys (insert key a m) = keys (erase key m) ++ [key] := by simp [keys, insert]
  rw [split, List.nodup_append]
  refine ⟨nodup_keys_erase h key, by simp, ?_⟩
  intro k hk k' hk'
  rw [keys_erase, List.mem_filter] at hk
  simp_all

theorem erase_of_get?_none {key : κ} {m : Keyed κ α} (h : get? key m = none) :
    erase key m = m := by
  simp only [erase, List.filter_eq_self, decide_eq_true_eq]
  intro e present same
  have listed : key ∈ keys m := List.mem_map.mpr ⟨e, present, same⟩
  rw [mem_keys_iff, h] at listed
  cases listed

/-- What is put in and removed again was never there. -/
theorem erase_insert {key : κ} {m : Keyed κ α} (h : get? key m = none) (a : α) :
    erase key (insert key a m) = m := by
  have same := erase_of_get?_none h
  rw [insert, same, erase, List.filter_append, ← erase, same]
  simp

/-- A map in which nothing is found is empty. -/
theorem eq_nil_of_get? {m : Keyed κ α} (h : ∀ key, get? key m = none) : m = [] := by
  cases m with
  | nil => rfl
  | cons e m => simpa [get?] using h e.1

theorem get?_map {β : Type} (f : κ → α → β) (key : κ) (m : Keyed κ α) :
    get? key (m.map fun e => (e.1, f e.1 e.2)) = (get? key m).map (f key) := by
  induction m with
  | nil => rfl
  | cons e m ih =>
    obtain ⟨k, a⟩ := e
    by_cases hk : k = key
    · simp [get?, hk]
    · simpa [get?, hk] using ih

theorem get?_filter {m : Keyed κ α} (h : (keys m).Nodup) (p : κ × α → Bool) (key : κ) :
    get? key (m.filter p) = (get? key m).filter fun a => p (key, a) := by
  induction m with
  | nil => rfl
  | cons e m ih =>
    obtain ⟨k, a⟩ := e
    simp only [keys, List.map_cons, List.nodup_cons] at h
    have rest := ih h.2
    by_cases hk : k = key
    · subst hk
      have absent : get? k m = none := by
        rw [← Option.not_isSome_iff_eq_none, ← mem_keys_iff]
        exact h.1
      by_cases hp : p (k, a) <;> simp [hp, get?, rest, absent, Option.filter]
    · by_cases hp : p (k, a) <;> simp [hp, get?, rest, hk]

/-- Under keys that differ every entry is found. -/
theorem get?_of_mem {m : Keyed κ α} (h : (keys m).Nodup) {e : κ × α} (among : e ∈ m) :
    get? e.1 m = some e.2 := by
  induction m with
  | nil => cases among
  | cons first m ih =>
    obtain ⟨k, a⟩ := first
    simp only [keys, List.map_cons, List.nodup_cons] at h
    rcases List.mem_cons.mp among with rfl | among
    · simp [get?]
    · have apart : k ≠ e.1 := by
        intro same
        exact h.1 (same ▸ List.mem_map_of_mem among)
      rw [get?_cons, if_neg apart, ih h.2 among]

/-- What is found is an entry. -/
theorem mem_of_get? {key : κ} {a : α} {m : Keyed κ α} (found : get? key m = some a) :
    (key, a) ∈ m := by
  induction m with
  | nil => cases found
  | cons first m ih =>
    obtain ⟨k, b⟩ := first
    rw [get?_cons] at found
    split at found
    · rename_i same
      cases found
      exact same ▸ List.mem_cons_self
    · exact List.mem_cons_of_mem _ (ih found)

/-- The keys of a list that a function knows, with what it says of them. -/
theorem get?_filterMap (f : κ → Option α) (key : κ) (ks : List κ) :
    get? key (ks.filterMap fun k => (f k).map (k, ·)) = if key ∈ ks then f key else none := by
  induction ks with
  | nil => rfl
  | cons k ks ih =>
    rw [List.filterMap_cons]
    by_cases same : k = key
    · subst same
      cases known : f k with
      | none => simpa [known] using ih
      | some a => simp [get?]
    · have apart : key ≠ k := Ne.symm same
      cases known : f k with
      | none => simpa [known, apart] using ih
      | some a => simpa [get?, same, apart] using ih

end Keyed

end Backchannel
