/-
# Backchannel.Proofs.Timing.History -- the guards that are alive

Contexts are made, copied and dropped, guards are taken, finished and dropped, in any order and
any number (`Op`).  A guard is alive (`Alive`) from the step that took it until one finishes or
drops it, and what the steps answered is enough to tell.  A family has one such guard at most,
its slot holds the start of that one, contexts that go take nothing with them, and what other
families do is not felt (`serial`).

The proof is that the guards on record are those that are alive (`Tracked`).
-/
import Backchannel.Proofs.Timing
import Backchannel.Timing.Run

namespace Backchannel.Timing

set_option autoImplicit false

variable {κ : Type} [DecidableEq κ]

/-! ## The operations -/

/-- The name of the guard that a step would take. -/
def Op.enters? : Op κ → Option κ
  | .enter guard _ _ => some guard
  | _ => none

/-- Each guard of a run has a name of its own. -/
def Distinct (ops : List (Op κ)) : Prop := (ops.filterMap Op.enters?).Nodup

/-- The name of the guard that a step would end. -/
def Op.ends? : Op κ → Option κ
  | .finish guard _ | .release guard => some guard
  | _ => none

/-- The step makes, copies or drops a context. -/
def Op.ofContexts : Op κ → Bool
  | .create _ | .clone _ _ | .forget _ => true
  | _ => false

namespace Step

/-- A guard of the family is taken. -/
def Enters (family : Nat) (guard : κ) (start : Instant) (st : Step κ) : Prop :=
  st.report = .entered (.ok ()) ∧ ∃ context, st.op = .enter guard context start ∧
    st.before.contexts.get? context = some family

/-- The guard that a step ends. -/
def ended? (st : Step κ) : Option κ :=
  match st.op, st.report with
  | .finish guard _, .finished _ => some guard
  | .release guard, .done => some guard
  | _, _ => none

/-- All steps but those that take or end guards of other families. -/
def concerns (family : Nat) (st : Step κ) : Bool :=
  match st.op with
  | .create _ | .clone _ _ | .forget _ => true
  | .enter _ context _ => st.before.contexts.get? context = some family
  | .finish guard _ | .release guard =>
    (st.before.guards.get? guard).map Guard.family = some family

end Step

/-- The guard was taken at `start` and has not ended since. -/
def Alive (family : Nat) (guard : κ) (start : Instant) (past : List (Step κ)) : Prop :=
  ∃ before st after, past = before ++ st :: after ∧ st.Enters family guard start ∧
    ∀ later ∈ after, later.ended? ≠ some guard

variable {t u : Timing κ} {op : Op κ} {ops : List (Op κ)} {past : List (Step κ)} {st : Step κ}
  {guard context : κ} {family : Nat} {start : Instant}

theorem alive_snoc :
    Alive family guard start (past ++ [st]) ↔
      (Alive family guard start past ∧ st.ended? ≠ some guard) ∨ st.Enters family guard start :=
  since_snoc

theorem Alive.taken (h : Alive family guard start past) :
    ∃ st ∈ past, st.op.enters? = some guard := by
  obtain ⟨before, st, after, rfl, ⟨-, context, own, -⟩, -⟩ := h
  exact ⟨st, by simp, by rw [own]; rfl⟩

/-! ## What a step does -/

/-- The context or the guard that the operation is for is not there. -/
def Op.Missing (t : Timing κ) : Op κ → Prop
  | .create _ => False
  | .clone _ context | .enter _ context _ | .forget context => t.contexts.get? context = none
  | .finish guard _ | .release guard => t.guards.get? guard = none

/-- What an operation answers and leaves. -/
inductive Does (t : Timing κ) : Op κ → Report → Timing κ → Prop where
  | created (context : κ) : Does t (.create context) .done (t.create context)
  | cloned {context : κ} {family : Nat} (copy : κ)
    (own : t.contexts.get? context = some family) :
    Does t (.clone copy context) .done (t.clone copy context)
  | raced {context : κ} {family : Nat} {start : Instant} (guard : κ) (now : Instant)
    (own : t.contexts.get? context = some family) (running : t.startOf family = some start) :
    Does t (.enter guard context now) (.entered (.error .race)) t
  | entered {context : κ} {family : Nat} (guard : κ) (now : Instant)
    (own : t.contexts.get? context = some family) (idle : t.startOf family = none) :
    Does t (.enter guard context now) (.entered (.ok ())) (t.entered guard family now)
  | finished {guard : κ} {g : Guard} (now : Instant) (held : t.guards.get? guard = some g) :
    Does t (.finish guard now) (.finished (now - g.startedAt)) (t.release guard)
  | released {guard : κ} {g : Guard} (held : t.guards.get? guard = some g) :
    Does t (.release guard) .done (t.release guard)
  | forgotten {context : κ} {family : Nat} (own : t.contexts.get? context = some family) :
    Does t (.forget context) .done (t.forget context)
  | gone {op : Op κ} (missing : op.Missing t) : Does t op .gone t

theorem Does.perform {report : Report} {t' : Timing κ} (h : Does t op report t') :
    t.perform op = (report, t') := by
  cases h with
  | created context => rfl
  | cloned copy own => simp [Timing.perform, Keyed.contains, own]
  | raced guard now own running =>
    simp [Timing.perform, Keyed.contains, enter, own, running]
  | entered guard now own idle =>
    simp [Timing.perform, Keyed.contains, enter, own, idle, Timing.entered]
  | finished now held => simp [Timing.perform, finish_of_held held]
  | released held => simp [Timing.perform, Keyed.contains, held]
  | forgotten own => simp [Timing.perform, Keyed.contains, own]
  | gone missing =>
    cases op with
    | create context => cases missing
    | clone copy context => simp_all [Timing.perform, Keyed.contains, Op.Missing]
    | enter guard context now => simp_all [Timing.perform, Keyed.contains, Op.Missing]
    | finish guard now => simp [Timing.perform, finish_of_none missing]
    | release guard => simp_all [Timing.perform, Keyed.contains, Op.Missing]
    | forget context => simp_all [Timing.perform, Keyed.contains, Op.Missing]

theorem exists_does (t : Timing κ) (op : Op κ) : ∃ report t', Does t op report t' := by
  cases op with
  | create context => exact ⟨_, _, .created context⟩
  | clone copy context =>
    cases own : t.contexts.get? context with
    | none => exact ⟨_, _, .gone own⟩
    | some family => exact ⟨_, _, .cloned copy own⟩
  | enter guard context now =>
    cases own : t.contexts.get? context with
    | none => exact ⟨_, _, .gone own⟩
    | some family =>
      cases slot : t.startOf family with
      | none => exact ⟨_, _, .entered guard now own slot⟩
      | some start => exact ⟨_, _, .raced guard now own slot⟩
  | finish guard now =>
    cases held : t.guards.get? guard with
    | none => exact ⟨_, _, .gone held⟩
    | some g => exact ⟨_, _, .finished now held⟩
  | release guard =>
    cases held : t.guards.get? guard with
    | none => exact ⟨_, _, .gone held⟩
    | some g => exact ⟨_, _, .released held⟩
  | forget context =>
    cases own : t.contexts.get? context with
    | none => exact ⟨_, _, .gone own⟩
    | some family => exact ⟨_, _, .forgotten own⟩

/-! ## Who is alive is on record -/

theorem entered_guard (guard : κ) (family : Nat) (now : Instant) (t : Timing κ) (key : κ) :
    (t.entered guard family now).guards.get? key =
      if guard = key then some ⟨family, now⟩ else t.guards.get? key := by
  simp [Timing.entered, Keyed.get?_insert]

/-- The guards on record are those that are alive. -/
structure Tracked (past : List (Step κ)) (t : Timing κ) : Prop where
  exact : t.Exact
  alive : ∀ family guard start,
    t.guards.get? guard = some ⟨family, start⟩ ↔ Alive family guard start past

theorem tracked_empty : Tracked [] (empty : Timing κ) where
  exact := exact_empty
  alive := by
    intro family guard start
    constructor
    · intro found
      cases found
    · intro alive
      obtain ⟨st, among, -⟩ := alive.taken
      cases among

theorem Tracked.fresh (h : Tracked past t) (new : ∀ st ∈ past, st.op.enters? ≠ some guard) :
    t.guards.get? guard = none := by
  cases found : t.guards.get? guard with
  | none => rfl
  | some g =>
    obtain ⟨st, among, taken⟩ := ((h.alive g.family guard g.startedAt).mp found).taken
    exact absurd taken (new st among)

/-- A step that takes no guard and ends none leaves the others alive. -/
theorem Tracked.kept {report : Report} {t' : Timing κ} (h : Tracked past t)
    (done : Does t op report t') (takes : report ≠ .entered (.ok ()))
    (goesOn : (Step.mk t op).ended? = none) (exact : t'.Exact) (same : t'.guards = t.guards) :
    Tracked (past ++ [⟨t, op⟩]) t' where
  exact := exact
  alive := by
    intro family guard start
    rw [alive_snoc, ← h.alive, same, goesOn]
    simp [Step.Enters, Step.report, done.perform, takes]

/-- A step that ends a guard leaves the others alive. -/
theorem Tracked.ended {report : Report} (h : Tracked past t)
    (done : Does t op report (t.release guard)) (takes : report ≠ .entered (.ok ()))
    (ended : (Step.mk t op).ended? = some guard) :
    Tracked (past ++ [⟨t, op⟩]) (t.release guard) where
  exact := h.exact.release guard
  alive := by
    intro family key start
    rw [alive_snoc, ← h.alive, release_guard, ended]
    by_cases same : guard = key <;>
      simp [same, Step.Enters, Step.report, done.perform, takes]

/-- A step that takes a guard leaves the others alive. -/
theorem Tracked.entered (h : Tracked past t) (own : t.contexts.get? context = some family)
    (idle : t.startOf family = none) (fresh : t.guards.get? guard = none) (now : Instant) :
    Tracked (past ++ [⟨t, .enter guard context now⟩]) (t.entered guard family now) where
  exact := h.exact.entered idle fresh (h.exact.context context family own) now
  alive := by
    have done := Does.entered guard now own idle
    have goesOn : (Step.mk t (.enter guard context now)).ended? = none := rfl
    intro f key start
    -- Whoever is taken in this step is this guard.
    have enters : (Step.mk t (.enter guard context now)).Enters f key start ↔
        guard = key ∧ family = f ∧ now = start := by
      constructor
      · rintro ⟨-, _, same, owned⟩
        cases same
        exact ⟨rfl, Option.some.inj (own.symm.trans owned), rfl⟩
      · rintro ⟨rfl, rfl, rfl⟩
        exact ⟨by rw [Step.report, done.perform], context, rfl, own⟩
    rw [alive_snoc, ← h.alive, entered_guard, goesOn, enters]
    by_cases same : guard = key
    · subst same
      simp [fresh]
    · simp [same]

theorem Tracked.step (h : Tracked past t) (op : Op κ)
    (new : ∀ guard, op.enters? = some guard → ∀ st ∈ past, st.op.enters? ≠ some guard) :
    Tracked (past ++ [⟨t, op⟩]) (t.step op) := by
  obtain ⟨report, t', done⟩ := exists_does t op
  have answered : (Step.mk t op).report = report := by rw [Step.report, done.perform]
  rw [Timing.step, done.perform]
  cases done with
  | created context => exact h.kept (.created context) nofun rfl (h.exact.create context) rfl
  | cloned copy own =>
    exact h.kept (.cloned copy own) nofun rfl (h.exact.clone own copy)
      (by rw [clone_of_known own])
  | raced guard now own running => exact h.kept (.raced guard now own running) nofun rfl h.exact rfl
  | entered guard now own idle => exact h.entered own idle (h.fresh (new guard rfl)) now
  | finished now held =>
    exact h.ended (.finished now held) nofun (by simp only [Step.ended?, answered])
  | released held => exact h.ended (.released held) nofun (by simp only [Step.ended?, answered])
  | forgotten own => exact h.kept (.forgotten own) nofun rfl (h.exact.forget _) rfl
  | gone missing =>
    exact h.kept (.gone missing) nofun (by simp only [Step.ended?, answered]) h.exact rfl

omit [DecidableEq κ] in
/-- The guard of the next step has not been there before. -/
theorem Distinct.new (distinct : Distinct (past.map Step.op ++ op :: ops)) (guard : κ)
    (takes : op.enters? = some guard) : ∀ st ∈ past, st.op.enters? ≠ some guard := by
  intro st among earlier
  simp only [Distinct, List.filterMap_append, List.filterMap_cons, takes,
    List.nodup_append] at distinct
  refine distinct.2.2 guard ?_ guard List.mem_cons_self rfl
  exact List.mem_filterMap.mpr ⟨st.op, List.mem_map_of_mem among, earlier⟩

theorem Tracked.run (h : Tracked past t) (distinct : Distinct (past.map Step.op ++ ops)) :
    Tracked (past ++ steps ops t) (run ops t) := by
  induction ops generalizing t past with
  | nil => simpa [steps, Timing.run] using h
  | cons op ops ih =>
    have rest := ih (h.step op distinct.new) (by simpa using distinct)
    simpa [steps, Timing.run] using rest

theorem tracked (distinct : Distinct ops) :
    Tracked (steps ops (empty : Timing κ)) (run ops empty) := by
  have all : Tracked ([] ++ steps ops (empty : Timing κ)) (Timing.run ops empty) :=
    tracked_empty.run (by simpa using distinct)
  exact all

/-! ## Other families -/

/-- The steps of a run that concern a family. -/
def kept (family : Nat) (ops : List (Op κ)) (t : Timing κ) : List (Step κ) :=
  (steps ops t).filter (Step.concerns family)

/-- What differs lies in other families. -/
structure Alike (family : Nat) (t u : Timing κ) : Prop where
  families : u.families = t.families
  contexts : u.contexts = t.contexts
  slot : u.startOf family = t.startOf family
  guards : ∀ guard start,
    u.guards.get? guard = some ⟨family, start⟩ ↔ t.guards.get? guard = some ⟨family, start⟩

theorem Alike.refl (family : Nat) (t : Timing κ) : Alike family t t :=
  ⟨rfl, rfl, rfl, fun _ _ => Iff.rfl⟩

theorem Alike.release (h : Alike family t u) {g : Guard} (held : t.guards.get? guard = some g)
    (own : g.family = family) :
    u.guards.get? guard = some g ∧ Alike family (t.release guard) (u.release guard) := by
  obtain ⟨f, start⟩ := g
  cases own
  have held' := (h.guards guard start).mpr held
  refine ⟨held', by simp [h.families], by simp [h.contexts], ?_, fun key start => ?_⟩
  · simp [startOf, release_slot, held, held']
  · rw [release_guard, release_guard]
    split
    · simp
    · exact h.guards key start

/-- A step that concerns the family does the same to both. -/
theorem Alike.concerned (h : Alike family t u) (concerns : (Step.mk t op).concerns family = true)
    {report : Report} {t' : Timing κ} (done : Does t op report t') :
    ∃ u', Does u op report u' ∧ Alike family t' u' := by
  have known (context : κ) : u.contexts.get? context = t.contexts.get? context := by
    rw [h.contexts]
  cases done with
  | created context =>
    refine ⟨u.create context, .created context, ?_, ?_, h.slot, h.guards⟩
    · simp [create, h.families]
    · simp [create, h.families, h.contexts]
  | @cloned context f copy own =>
    have own' := (known context).trans own
    refine ⟨u.clone copy context, .cloned copy own', ?_⟩
    rw [clone_of_known own, clone_of_known own']
    exact ⟨h.families, by simp [h.contexts], h.slot, h.guards⟩
  | @raced context f start guard now own running =>
    obtain rfl : f = family := by simpa [Step.concerns, own] using concerns
    exact ⟨u, .raced guard now ((known context).trans own) (h.slot.trans running), h⟩
  | @entered context f guard now own idle =>
    obtain rfl : f = family := by simpa [Step.concerns, own] using concerns
    refine ⟨u.entered guard f now,
      .entered guard now ((known context).trans own) (h.slot.trans idle), h.families, h.contexts,
      ?_, fun key start => ?_⟩
    · simp [startOf, Timing.entered]
    · rw [entered_guard, entered_guard]
      split
      · rfl
      · exact h.guards key start
  | @finished guard g now held =>
    have own : g.family = family := by simpa [Step.concerns, held] using concerns
    obtain ⟨held', alike⟩ := h.release held own
    exact ⟨u.release guard, .finished now held', alike⟩
  | @released guard g held =>
    have own : g.family = family := by simpa [Step.concerns, held] using concerns
    obtain ⟨held', alike⟩ := h.release held own
    exact ⟨u.release guard, .released held', alike⟩
  | @forgotten context f own =>
    exact ⟨u.forget context, .forgotten ((known context).trans own), h.families,
      by simp [forget, h.contexts], h.slot, h.guards⟩
  | gone missing =>
    refine ⟨u, .gone ?_, h⟩
    cases op with
    | create context => exact missing
    | clone copy context => exact (known context).trans missing
    | enter guard context now => exact (known context).trans missing
    | forget context => exact (known context).trans missing
    | finish guard now =>
      rw [Op.Missing] at missing
      simp [Step.concerns, missing] at concerns
    | release guard =>
      rw [Op.Missing] at missing
      simp [Step.concerns, missing] at concerns

/-- A guard of another family that ends is not missed. -/
theorem Alike.released (h : Alike family t u) {g : Guard} (held : t.guards.get? guard = some g)
    (other : g.family ≠ family) : Alike family (t.release guard) u where
  families := by simp [h.families]
  contexts := by simp [h.contexts]
  slot := by simpa [startOf, release_slot, held, other] using h.slot
  guards := by
    intro key start
    rw [release_guard, h.guards]
    split
    · rename_i same
      have apart : t.guards.get? key ≠ some ⟨family, start⟩ := by
        rw [← same, held]
        rintro ⟨⟩
        exact other rfl
      simp [apart]
    · rfl

/-- A step that does not is not felt. -/
theorem Alike.elsewhere (h : Alike family t u)
    (elsewhere : (Step.mk t op).concerns family = false)
    (fresh : ∀ guard, op.enters? = some guard → t.guards.get? guard = none)
    {report : Report} {t' : Timing κ} (done : Does t op report t') : Alike family t' u := by
  cases done with
  | created | cloned | forgotten => simp [Step.concerns] at elsewhere
  | raced guard now own running => exact h
  | gone missing => exact h
  | @entered context f guard now own idle =>
    have other : f ≠ family := by simpa [Step.concerns, own] using elsewhere
    refine ⟨h.families, h.contexts, ?_, fun key start => ?_⟩
    · simpa [startOf, Timing.entered, Keyed.get?_insert, other] using h.slot
    · rw [entered_guard, h.guards]
      split
      · rename_i same
        simp [← same, fresh guard rfl, other]
      · rfl
  | @finished guard g now held =>
    exact h.released held (by simpa [Step.concerns, held] using elsewhere)
  | @released guard g held =>
    exact h.released held (by simpa [Step.concerns, held] using elsewhere)

/-- Without the guards of other families, all that concerns a family comes out the same. -/
theorem Alike.run (h : Alike family t u) (tracked : Tracked past t)
    (distinct : Distinct (past.map Step.op ++ ops)) :
    (steps ((kept family ops t).map Step.op) u).map Step.report =
        (kept family ops t).map Step.report ∧
      Alike family (run ops t) (Timing.run ((kept family ops t).map Step.op) u) := by
  induction ops generalizing t u past with
  | nil => exact ⟨rfl, h⟩
  | cons op ops ih =>
    obtain ⟨report, t', done⟩ := exists_does t op
    have tracked' := tracked.step op distinct.new
    have after : t.step op = t' := by rw [step, done.perform]
    have distinct' : Distinct ((past ++ [Step.mk t op]).map Step.op ++ ops) := by
      simpa using distinct
    cases concerns : (Step.mk t op).concerns family with
    | true =>
      obtain ⟨u', done', alike⟩ := h.concerned concerns done
      obtain ⟨reports, alike'⟩ := ih (after ▸ alike) tracked' distinct'
      have after' : u.step op = u' := by rw [step, done'.perform]
      have first : kept family (op :: ops) t = .mk t op :: kept family ops (t.step op) := by
        simp [kept, steps, concerns]
      rw [first, List.map_cons, steps, List.map_cons, List.map_cons, after', reports]
      refine ⟨?_, ?_⟩
      · simp [Step.report, done.perform, done'.perform]
      · simpa [Timing.run, after'] using alike'
    | false =>
      have fresh (guard : κ) (takes : op.enters? = some guard) : t.guards.get? guard = none :=
        tracked.fresh (distinct.new guard takes)
      have skipped : kept family (op :: ops) t = kept family ops (t.step op) := by
        simp [kept, steps, concerns]
      rw [skipped]
      exact ih (after ▸ h.elsewhere concerns fresh done) tracked' distinct'

/-! ## What holds of every run -/

/-- The contexts and the guards after the steps `past`. -/
structure Serial (past : List (Step κ)) (t : Timing κ) : Prop where
  /-- The slot of a family holds a start exactly if one guard of it is alive, one only, and was
  taken then. -/
  slot : ∀ family start, t.startOf family = some start ↔ ∃ guard,
    Alive family guard start past ∧
      ∀ other start', Alive family other start' past → other = guard
  /-- There are never two. -/
  single : ∀ family one two start start', Alive family one start past →
    Alive family two start' past → one = two ∧ start = start'
  /-- While one is alive another cannot be taken, and to have tried changes nothing. -/
  race : ∀ family guard start, Alive family guard start past → ∀ context new now,
    t.contexts.get? context = some family →
      t.perform (.enter new context now) = (.entered (.error .race), t)
  /-- While none is it can, which starts just this family. -/
  entry : ∀ family, (∀ guard start, ¬ Alive family guard start past) → ∀ context new now,
    t.contexts.get? context = some family →
      t.perform (.enter new context now) = (.entered (.ok ()), t.entered new family now)
  /-- A guard that is finished tells how long it was held, -/
  finished : ∀ family guard start, Alive family guard start past → ∀ now,
    t.perform (.finish guard now) = (.finished (now - start), t.release guard)
  /-- one that is dropped tells nothing, -/
  dropped : ∀ family guard start, Alive family guard start past →
    t.perform (.release guard) = (.done, t.release guard)
  /-- and either way just its own family is idle then, -/
  idle : ∀ family guard start, Alive family guard start past → ∀ other,
    (t.release guard).startOf other = if other = family then none else t.startOf other
  /-- with all other guards as alive as before. -/
  others : ∀ family guard start, Alive family guard start past → ∀ op, op.ends? = some guard →
    ∀ f other start', Alive f other start' (past ++ [⟨t, op⟩]) ↔
      Alive f other start' past ∧ other ≠ guard
  /-- A guard that is not alive ends nothing. -/
  stale : ∀ guard, (∀ family start, ¬ Alive family guard start past) → ∀ op,
    op.ends? = some guard → t.perform op = (.gone, t)
  /-- Whichever contexts are made, copied or dropped, the slots and the guards stay. -/
  contexts : ∀ ops, (∀ op ∈ ops, op.ofContexts = true) →
    (run ops t).slots = t.slots ∧ (run ops t).guards = t.guards

theorem run_contexts (only : ∀ op ∈ ops, op.ofContexts = true) (t : Timing κ) :
    (run ops t).slots = t.slots ∧ (run ops t).guards = t.guards := by
  induction ops generalizing t with
  | nil => exact ⟨rfl, rfl⟩
  | cons op ops ih =>
    obtain ⟨slots, guards⟩ := ih (fun later among => only later (.tail _ among)) (t.step op)
    have first := only op (.head _)
    have kept : (t.step op).slots = t.slots ∧ (t.step op).guards = t.guards := by
      obtain ⟨report, t', done⟩ := exists_does t op
      rw [step, done.perform]
      cases done with
      | created | forgotten | gone => exact ⟨rfl, rfl⟩
      | cloned copy own => rw [clone_of_known own]; exact ⟨rfl, rfl⟩
      | raced | entered | finished | released => cases first
    exact ⟨slots.trans kept.1, guards.trans kept.2⟩

theorem Tracked.slot (h : Tracked past t) (family : Nat) (start : Instant) :
    t.startOf family = some start ↔ ∃ guard, Alive family guard start past := by
  simp only [← h.alive]
  constructor
  · exact h.exact.guard family start
  · rintro ⟨guard, held⟩
    exact h.exact.slot guard ⟨family, start⟩ held

theorem Tracked.single (h : Tracked past t) {one two : κ} {start start' : Instant}
    (alive : Alive family one start past) (alive' : Alive family two start' past) :
    one = two ∧ start = start' := by
  have held := (h.alive family one start).mpr alive
  have held' := (h.alive family two start').mpr alive'
  have same := h.exact.single one two _ _ held held' rfl
  subst same
  rw [held] at held'
  cases held'
  exact ⟨rfl, rfl⟩

theorem Tracked.isSerial (h : Tracked past t) : Serial past t where
  slot := by
    intro family start
    rw [h.slot]
    constructor
    · rintro ⟨guard, alive⟩
      exact ⟨guard, alive, fun other start' alive' => (h.single alive' alive).1⟩
    · rintro ⟨guard, alive, -⟩
      exact ⟨guard, alive⟩
  single := fun family one two start start' => h.single
  race := by
    intro family guard start alive context new now own
    exact (Does.raced new now own ((h.slot family start).mpr ⟨guard, alive⟩)).perform
  entry := by
    intro family none context new now own
    refine (Does.entered new now own ?_).perform
    cases slot : t.startOf family with
    | none => rfl
    | some start =>
      obtain ⟨guard, alive⟩ := (h.slot family start).mp slot
      exact absurd alive (none guard start)
  finished := by
    intro family guard start alive now
    exact (Does.finished now ((h.alive family guard start).mpr alive)).perform
  dropped := by
    intro family guard start alive
    exact (Does.released ((h.alive family guard start).mpr alive)).perform
  idle := by
    intro family guard start alive other
    have held := (h.alive family guard start).mpr alive
    simp [startOf, release_slot, held, eq_comm]
  others := by
    intro family guard start alive op ends f other start'
    have held := (h.alive family guard start).mpr alive
    have ended : (Step.mk t op).ended? = some guard ∧
        (Step.mk t op).report ≠ .entered (.ok ()) := by
      cases op <;> cases ends
      · simp [Step.ended?, Step.report, (Does.finished _ held).perform]
      · simp [Step.ended?, Step.report, (Does.released held).perform]
    rw [alive_snoc, ended.1]
    simp [Step.Enters, ended.2, eq_comm]
  stale := by
    intro guard dead op ends
    refine (Does.gone ?_).perform
    have missing : t.guards.get? guard = none := by
      cases found : t.guards.get? guard with
      | none => rfl
      | some g => exact absurd ((h.alive g.family guard g.startedAt).mp found) (dead _ _)
    cases op <;> cases ends <;> exact missing
  contexts := fun ops only => run_contexts only t

/-- What concerns a family comes out as if no other family had ever had a guard: the steps answer
the same, and the family runs in the end as it would then. -/
structure Undisturbed (family : Nat) (ops : List (Op κ)) (t : Timing κ) : Prop where
  reports : (steps ((kept family ops t).map Step.op) t).map Step.report =
    (kept family ops t).map Step.report
  slot : (run ((kept family ops t).map Step.op) t).startOf family = (run ops t).startOf family
  guards : ∀ guard start,
    (run ((kept family ops t).map Step.op) t).guards.get? guard = some ⟨family, start⟩ ↔
      (run ops t).guards.get? guard = some ⟨family, start⟩

/-- Whatever is done with contexts and guards, in whatever order: a family of copies has one
guard at most and runs just as long as that is alive, and families do not meet. -/
theorem serial (ops : List (Op κ)) (distinct : Distinct ops) :
    Serial (steps ops empty) (run ops (empty : Timing κ)) ∧
      ∀ family, Undisturbed family ops (empty : Timing κ) := by
  refine ⟨(tracked distinct).isSerial, fun family => ?_⟩
  obtain ⟨reports, alike⟩ :=
    (Alike.refl family (empty : Timing κ)).run tracked_empty (by simpa using distinct)
  exact ⟨reports, alike.slot, alike.guards⟩

/-- Two objects.  A call of the first is refused while its guard is alive, also through a
copy and when all contexts are gone; the second runs beside it. -/
def objects : List (Op Nat) :=
  [.create 0, .clone 1 0, .create 2, .enter 10 0 5, .enter 11 1 6, .enter 12 2 7, .forget 0,
    .forget 2, .finish 12 9, .enter 13 1 10, .finish 10 12, .enter 14 1 13, .release 10]

theorem objects_serial :
    Distinct objects ∧
      (run objects (empty : Timing Nat)).startOf 0 = some 13 ∧
      (run objects (empty : Timing Nat)).startOf 1 = none ∧
      Serial (steps objects empty) (run objects (empty : Timing Nat)) ∧
      ∀ family, Undisturbed family objects (empty : Timing Nat) := by
  have distinct : Distinct objects := by
    unfold Distinct
    decide
  exact ⟨distinct, by decide +kernel, by decide +kernel, serial objects distinct⟩

end Backchannel.Timing
