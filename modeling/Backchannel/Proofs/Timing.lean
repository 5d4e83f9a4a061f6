/-
# Backchannel.Proofs.Timing -- one guard a family

A family runs exactly as long as a guard of it is there, and there is at most one
(`Timing.Exact`).  Entering under a new guard and letting go of one both keep it so.
-/
import Backchannel.Timing

namespace Backchannel

set_option autoImplicit false

/-- Something has begun and goes on after one more step: it had begun and goes on with that, or
it begins there. -/
theorem since_snoc {α : Type} {begins goesOn : α → Prop} {past : List α} {last : α} :
    (∃ before first after, past ++ [last] = before ++ first :: after ∧ begins first ∧
        ∀ later ∈ after, goesOn later) ↔
      ((∃ before first after, past = before ++ first :: after ∧ begins first ∧
        ∀ later ∈ after, goesOn later) ∧ goesOn last) ∨ begins last := by
  constructor
  · rintro ⟨before, first, after, split, begun, quiet⟩
    rcases List.eq_nil_or_concat after with rfl | ⟨after, final, rfl⟩
    · obtain ⟨-, same⟩ := List.append_inj' split rfl
      cases same
      exact .inr begun
    · rw [List.concat_eq_append, ← List.cons_append, ← List.append_assoc] at split
      obtain ⟨rfl, same⟩ := List.append_inj' split rfl
      cases same
      refine .inl ⟨⟨before, first, after, rfl, begun, fun later among => ?_⟩, ?_⟩
      · exact quiet later (by simp [among])
      · exact quiet last (by simp)
  · rintro (⟨⟨before, first, after, rfl, begun, quiet⟩, still⟩ | begun)
    · refine ⟨before, first, after ++ [last], by simp, begun, fun later among => ?_⟩
      rcases List.mem_append.mp among with earlier | final
      · exact quiet later earlier
      · exact List.mem_singleton.mp final ▸ still
    · exact ⟨past, last, [], rfl, begun, fun later among => absurd among List.not_mem_nil⟩

namespace Timing

variable {κ : Type} [DecidableEq κ] {t t' : Timing κ} {guard context other : κ} {family : Nat}
  {now : Instant}

/-- The guards and the slots of the families belong together. -/
structure Exact (t : Timing κ) : Prop where
  slot : ∀ guard g, t.guards.get? guard = some g → t.slots.get? g.family = some g.startedAt
  guard : ∀ family at_, t.slots.get? family = some at_ →
    ∃ guard, t.guards.get? guard = some ⟨family, at_⟩
  single : ∀ one two g g', t.guards.get? one = some g → t.guards.get? two = some g' →
    g.family = g'.family → one = two
  context : ∀ context family, t.contexts.get? context = some family → family < t.families
  known : ∀ family at_, t.slots.get? family = some at_ → family < t.families

theorem exact_empty : Exact (empty : Timing κ) where
  slot := by
    intro guard g found
    cases found
  guard := by
    intro family at_ found
    cases found
  single := by
    intro one two g g' found
    cases found
  context := by
    intro context family found
    cases found
  known := by
    intro family at_ found
    cases found

/-- The family runs under that guard. -/
def Runs (t : Timing κ) (family : Nat) (guard : κ) : Prop :=
  ∃ at_, t.guards.get? guard = some ⟨family, at_⟩

theorem Exact.running (h : t.Exact) (own : t.contexts.get? context = some family) :
    t.isRunning context = true ↔ ∃ guard, t.Runs family guard := by
  simp only [isRunning, startedAt, own, Option.bind_some, startOf]
  constructor
  · intro started
    obtain ⟨at_, found⟩ := Option.isSome_iff_exists.mp started
    obtain ⟨guard, held⟩ := h.guard family at_ found
    exact ⟨guard, at_, held⟩
  · rintro ⟨guard, at_, held⟩
    rw [h.slot guard ⟨family, at_⟩ held]
    rfl

theorem Exact.runs_once (h : t.Exact) {one two : κ} (runs : t.Runs family one)
    (runs' : t.Runs family two) : one = two := by
  obtain ⟨at_, found⟩ := runs
  obtain ⟨at', found'⟩ := runs'
  exact h.single one two _ _ found found' rfl

/-! ## Entering -/

theorem enter_of_running (running : t.isRunning context = true) (guard : κ) (now : Instant) :
    t.enter guard context now = .error .race := by
  simp only [isRunning, startedAt] at running
  cases own : t.contexts.get? context with
  | none => simp [own] at running
  | some family =>
    cases started : t.startOf family with
    | none => simp [own, started] at running
    | some at_ => simp [enter, own, started]

/-- Enters the family under that guard. -/
def entered (guard : κ) (family : Nat) (now : Instant) (t : Timing κ) : Timing κ :=
  { t with
    slots := t.slots.insert family now
    guards := t.guards.insert guard ⟨family, now⟩ }

theorem enter_of_idle (own : t.contexts.get? context = some family)
    (idle : t.isRunning context = false) (guard : κ) (now : Instant) :
    t.enter guard context now = .ok (t.entered guard family now) := by
  have free : t.startOf family = none := by simpa [isRunning, startedAt, own] using idle
  simp [enter, own, free, entered]

theorem enter_of_none (none : t.contexts.get? context = none) (guard : κ) (now : Instant) :
    t.enter guard context now = .ok t := by
  simp [enter, none]

theorem idle_slot (own : t.contexts.get? context = some family)
    (idle : t.isRunning context = false) : t.slots.get? family = none := by
  simpa [isRunning, startedAt, startOf, own] using idle

theorem Exact.entered (h : t.Exact) (free : t.slots.get? family = none)
    (fresh : t.guards.get? guard = none) (bound : family < t.families) (now : Instant) :
    (t.entered guard family now).Exact where
  slot := by
    intro key g found
    simp only [Timing.entered, Keyed.get?_insert] at found ⊢
    split at found
    · cases found
      exact if_pos rfl
    · have old := h.slot key g found
      have apart : family ≠ g.family := by
        rintro rfl
        rw [free] at old
        cases old
      rw [if_neg apart, old]
  guard := by
    intro other at_ found
    simp only [Timing.entered, Keyed.get?_insert] at found ⊢
    split at found
    · rename_i same
      cases found
      exact ⟨guard, by simp [same]⟩
    · obtain ⟨key, held⟩ := h.guard other at_ found
      have apart : guard ≠ key := by
        rintro rfl
        rw [fresh] at held
        cases held
      exact ⟨key, by rw [if_neg apart, held]⟩
  single := by
    intro one two g g' found found' same
    -- Whoever is in the new guard's family would have its slot, which was free.
    have old {key : κ} {g : Guard} (held : t.guards.get? key = some g) : g.family ≠ family := by
      intro own
      have taken := h.slot key g held
      rw [own, free] at taken
      cases taken
    simp only [Timing.entered, Keyed.get?_insert] at found found'
    split at found <;> split at found'
    · rename_i own own'
      exact own.symm.trans own'
    · cases found
      exact absurd same.symm (old found')
    · cases found'
      exact absurd same (old found)
    · exact h.single one two g g' found found' same
  context := h.context
  known := by
    intro other at_ found
    simp only [Timing.entered, Keyed.get?_insert] at found
    split at found
    · rename_i same
      exact same ▸ bound
    · exact h.known other at_ found

theorem entered_runs (guard : κ) (family : Nat) (now : Instant) (t : Timing κ)
    (fresh : t.guards.get? guard = none) (f : Nat) (key : κ) :
    (t.entered guard family now).Runs f key ↔ t.Runs f key ∨ (f = family ∧ key = guard) := by
  simp only [Runs, Timing.entered, Keyed.get?_insert]
  by_cases same : guard = key
  · subst same
    simp [fresh, eq_comm]
  · simp [same, Ne.symm same]

/-! ## Letting go -/

theorem release_of_none (none : t.guards.get? guard = none) : t.release guard = t := by
  simp [release, discard, none]

theorem release_of_held {g : Guard} (held : t.guards.get? guard = some g) :
    t.release guard =
      { t with slots := t.slots.erase g.family, guards := t.guards.erase guard } := by
  simp [release, discard, held, reset]

theorem finish_of_none (none : t.guards.get? guard = none) (now : Instant) :
    t.finish guard now = (.none, t) := by
  simp [finish, none]

/-- Who finishes a call and then lets go of its guard has not ended more than who just lets
go. -/
theorem finish_of_held {g : Guard} (held : t.guards.get? guard = some g) (now : Instant) :
    t.finish guard now = (some (now - g.startedAt), t.release guard) := by
  have still : (t.reset g.family).guards.get? guard = some g := held
  simp only [finish, held, discard, still, if_true, release_of_held held]
  rfl

theorem release_guard (guard key : κ) (t : Timing κ) :
    (t.release guard).guards.get? key = if guard = key then none else t.guards.get? key := by
  cases found : t.guards.get? guard with
  | none =>
    rw [release_of_none found]
    split
    · rename_i same
      rw [← same, found]
    · rfl
  | some g => simp [release_of_held found, Keyed.get?_erase]

theorem release_slot (guard : κ) (family : Nat) (t : Timing κ) :
    (t.release guard).slots.get? family =
      if (t.guards.get? guard).map Guard.family = some family then none
      else t.slots.get? family := by
  cases found : t.guards.get? guard with
  | none => simp [release_of_none found]
  | some g => simp [release_of_held found, Keyed.get?_erase]

@[simp] theorem release_contexts (guard : κ) (t : Timing κ) :
    (t.release guard).contexts = t.contexts := by
  cases found : t.guards.get? guard with
  | none => rw [release_of_none found]
  | some g => rw [release_of_held found]

@[simp] theorem release_families (guard : κ) (t : Timing κ) :
    (t.release guard).families = t.families := by
  cases found : t.guards.get? guard with
  | none => rw [release_of_none found]
  | some g => rw [release_of_held found]

theorem Exact.release (h : t.Exact) (guard : κ) : (t.release guard).Exact where
  slot := by
    intro key g found
    rw [release_guard] at found
    split at found
    · cases found
    · rename_i apart
      rw [release_slot, if_neg, h.slot key g found]
      intro same
      obtain ⟨g', held, own⟩ := Option.map_eq_some_iff.mp same
      exact apart (h.single guard key g' g held found own)
  guard := by
    intro family at_ found
    rw [release_slot] at found
    split at found
    · cases found
    · rename_i other
      obtain ⟨key, held⟩ := h.guard family at_ found
      refine ⟨key, ?_⟩
      rw [release_guard, if_neg, held]
      rintro rfl
      exact other (by rw [held]; rfl)
  single := by
    intro one two g g' found found' same
    rw [release_guard] at found found'
    split at found
    · cases found
    · split at found'
      · cases found'
      · exact h.single one two g g' found found' same
  context := by simpa using h.context
  known := by
    intro family at_ found
    rw [release_slot] at found
    split at found
    · cases found
    · simpa using h.known family at_ found

theorem release_runs (guard : κ) (t : Timing κ) (family : Nat) (key : κ) :
    (t.release guard).Runs family key ↔ t.Runs family key ∧ key ≠ guard := by
  simp only [Runs, release_guard]
  by_cases same : guard = key
  · simp [same]
  · simp [same, Ne.symm same]

/-- Who is let go at once has changed nothing. -/
theorem release_entered (free : t.slots.get? family = none) (fresh : t.guards.get? guard = none)
    (now : Instant) : (t.entered guard family now).release guard = t := by
  have held : (t.entered guard family now).guards.get? guard = some ⟨family, now⟩ := by
    simp [entered]
  rw [release_of_held held]
  simp [entered, Keyed.erase_insert free, Keyed.erase_insert fresh]

/-! ## New contexts -/

theorem Exact.create (h : t.Exact) (context : κ) : (t.create context).Exact where
  slot := h.slot
  guard := h.guard
  single := h.single
  context := by
    intro other family found
    simp only [Timing.create, Keyed.get?_insert] at found ⊢
    split at found
    · cases found
      exact Nat.lt_succ_self _
    · exact Nat.lt_succ_of_lt (h.context other family found)
  known := fun family at_ found => Nat.lt_succ_of_lt (h.known family at_ found)

/-! ## Copies, and contexts that go -/

theorem clone_of_known (own : t.contexts.get? context = some family) (copy : κ) :
    t.clone copy context = { t with contexts := t.contexts.insert copy family } := by
  simp [clone, own]

theorem Exact.clone (h : t.Exact) (own : t.contexts.get? context = some family) (copy : κ) :
    (t.clone copy context).Exact := by
  rw [clone_of_known own]
  refine { h with context := ?_ }
  intro key f found
  simp only [Keyed.get?_insert] at found
  split at found
  · cases found
    exact h.context context family own
  · exact h.context key f found

theorem Exact.forget (h : t.Exact) (context : κ) : (t.forget context).Exact := by
  refine { h with context := ?_ }
  intro key f found
  simp only [Timing.forget, Keyed.get?_erase] at found
  split at found
  · cases found
  · exact h.context key f found

end Timing

end Backchannel
