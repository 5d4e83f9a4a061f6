/-
# Backchannel.Proofs.Plugin.Advance -- time that is cut into pieces

As time passes a plugin stops at every moment at which something is due, fires it and settles.
A target of its own is one more stop, at which nothing else happens.  So it makes no difference
into which pieces a span of time is cut: after all of them the plugin is the same as after the
whole (`acts_advances`).
-/
import Backchannel.Proofs.Plugin.Rest

namespace Backchannel

set_option autoImplicit false

/-- Several spans of time as one. -/
def Duration.total : List Duration → Duration
  | [] => 0
  | span :: spans => span + total spans

namespace Plugin

variable {p q r : Plugin} {every : Duration} {early target : Instant}

/-- The next stop on the way to a target. -/
def tick (target : Instant) (p : Plugin) : Plugin :=
  (p.setClock (p.session.nextStop target)).fire

theorem tick_leads (ahead : p.now ≤ target) : Session.Leads p.session (p.tick target).session :=
  (setClock_leads (Session.le_nextStop ahead)).trans (fire_moment _).leads

theorem tick_now (sound : p.session.Sound) (ahead : p.now ≤ target) :
    (p.tick target).now = p.session.nextStop target :=
  Session.Moment.now (fire_moment _)
    ((setClock_leads (Session.le_nextStop ahead)).sound sound)

theorem tick_resting (h : Resting p) (set : p.session.settings.heartbeatEvery = some every)
    (positive : 0 < every) (ahead : p.now ≤ target) : Resting (p.tick target) :=
  fire_resting ((setClock_leads (Session.le_nextStop ahead)).sound h.sound) set positive
    (h.atRest.ahead.reach target)

/-- The stops on the way to a target. -/
inductive Glides (target : Instant) : Plugin → Plugin → Prop where
  | last {p : Plugin} (stop : p.session.nextStop target = target) :
    Glides target p (p.tick target)
  | next {p q : Plugin} (stop : p.session.nextStop target < target)
    (rest : Glides target (p.tick target) q) : Glides target p q

theorem Glides.unique (one : Glides target p q) (other : Glides target p r) : q = r := by
  induction one with
  | last stop =>
    cases other with
    | last => rfl
    | next early => exact absurd stop (Nat.ne_of_lt early)
  | next early _ ih =>
    cases other with
    | last stop => exact absurd stop (Nat.ne_of_lt early)
    | next _ rest => exact ih rest

theorem Glides.resting (h : Glides target p q) (resting : Resting p)
    (set : p.session.settings.heartbeatEvery = some every) (positive : 0 < every)
    (ahead : p.now ≤ target) :
    Resting q ∧ q.now = target ∧ q.session.settings.heartbeatEvery = some every := by
  induction h with
  | last stop =>
    have settings := (tick_leads ahead).settings resting.sound
    exact ⟨tick_resting resting set positive ahead, (tick_now resting.sound ahead).trans stop,
      settings ▸ set⟩
  | next stop _ ih =>
    have settings := (tick_leads ahead).settings resting.sound
    refine ih (tick_resting resting set positive ahead) (settings ▸ set) ?_
    rw [tick_now resting.sound ahead]
    exact Nat.le_of_lt stop

/-! ## A stop at which nothing is due -/

/-- The heartbeat of an open session at rest does not cease. -/
theorem Resting.drift_of_open (h : Resting p) (opened : p.session.status.isClosed = false)
    (nothing : ∀ due ∈ p.session.dueTimes, p.now < due → early < due) :
    p.drift early = p.setClock early := by
  have kept : p.session.beatAt.filter (early < ·) = p.session.beatAt := by
    cases timer : p.session.beatAt with
    | none => rfl
    | some due =>
      have ahead := nothing due (Session.beatAt_mem_dueTimes opened timer)
        (h.atRest.ahead.beat opened due timer)
      simp [Option.filter, ahead]
  rw [drift, setClock, onSession, onSession, kept]

theorem drift_drift (le : early ≤ target) : (p.drift early).drift target = p.drift target := by
  have once : (p.session.beatAt.filter (early < ·)).filter (target < ·) =
      p.session.beatAt.filter (target < ·) := by
    cases p.session.beatAt with
    | none => rfl
    | some due =>
      by_cases later : target < due
      · simp [Option.filter, later, Nat.lt_of_le_of_lt le later]
      · by_cases soon : early < due <;> simp [Option.filter, later, soon]
  simp only [drift, onSession, once]

/-- If it comes before the next stop on the way, it is no detour. -/
theorem Resting.detour (h : Resting p) (set : p.session.settings.heartbeatEvery = some every)
    (later : p.now ≤ early) (before : early < p.session.nextStop target) :
    p.tick early = p.drift early ∧
      (p.drift early).session.nextStop target = p.session.nextStop target ∧
      (p.drift early).tick target = p.tick target := by
  have nothing : ∀ due ∈ p.session.dueTimes, p.now < due → early < due :=
    fun due among later => Nat.lt_of_lt_of_le before (Session.nextStop_le_due among later target)
  have stop : p.session.nextStop early = early := by
    rw [Session.nextStop_early (Nat.le_of_lt (Nat.lt_of_lt_of_le before
      (p.session.nextStop_le target)))]
    exact Nat.min_eq_left (Nat.le_of_lt before)
  obtain ⟨fired, resting⟩ := h.fire set later nothing
  refine ⟨by rw [tick, stop, fired], ?_⟩
  cases status : p.session.status.isClosed with
  | true =>
    have status' : (p.drift early).session.status.isClosed = true := status
    have direct := Session.nextStop_of_closed status target
    have direct' := Session.nextStop_of_closed status' target
    rw [direct] at before ⊢
    have first := (h.fire set (t := target) (Nat.le_trans later (Nat.le_of_lt before))
      (by simp [Session.dueTimes_of_closed status])).1
    have rest := (resting.fire set (t := target) (Nat.le_of_lt before)
      (by simp [Session.dueTimes_of_closed status'])).1
    refine ⟨direct', ?_⟩
    rw [tick, tick, direct, direct', first, rest, drift_drift (Nat.le_of_lt before)]
  | false =>
    have same := h.drift_of_open status nothing
    have stops : (p.setClock early).session.nextStop target = p.session.nextStop target := by
      have filtered : (p.setClock early).session.dueTimes.filter (early < ·) =
          p.session.dueTimes.filter (p.now < ·) := by
        refine List.filter_congr fun due among => ?_
        have iff : early < due ↔ p.now < due :=
          ⟨fun less => Nat.lt_of_le_of_lt later less, nothing due among⟩
        exact decide_eq_decide.mpr iff
      exact congrArg (List.foldl min target) filtered
    rw [same]
    exact ⟨stops, by rw [tick, stops]; rfl⟩

/-! ## Pieces of time -/

theorem glides_iff : Glides target p q ↔
    p.session.nextStop target = target ∧ q = p.tick target ∨
      p.session.nextStop target < target ∧ Glides target (p.tick target) q := by
  constructor
  · intro h
    cases h with
    | last stop => exact .inl ⟨stop, rfl⟩
    | next stop rest => exact .inr ⟨stop, rest⟩
  · rintro (⟨stop, rfl⟩ | ⟨stop, rest⟩)
    · exact .last stop
    · exact .next stop rest

/-- Whoever halts on the way goes on as if nothing had been. -/
theorem Glides.through (first : Glides early p q) (resting : Resting p)
    (set : p.session.settings.heartbeatEvery = some every) (positive : 0 < every)
    (ahead : p.now ≤ early) (further : early < target) (rest : Glides target q r) :
    Glides target p r := by
  induction first with
  | last stop =>
    rename_i p
    have least : early = min early (p.session.nextStop target) :=
      stop.symm.trans (Session.nextStop_early (Nat.le_of_lt further))
    have reached : early ≤ p.session.nextStop target := by
      rw [least]
      exact Nat.min_le_right early _
    rcases Nat.lt_or_eq_of_le reached with before | same
    · obtain ⟨drifted, stops, ticks⟩ := resting.detour set ahead before
      rw [drifted, glides_iff, stops, ticks] at rest
      exact glides_iff.mpr rest
    · have ticks : p.tick target = p.tick early := by rw [tick, tick, stop, ← same]
      exact .next (same ▸ further) (ticks ▸ rest)
  | next stop _ ih =>
    rename_i p q _
    have least : p.session.nextStop early = min early (p.session.nextStop target) :=
      Session.nextStop_early (Nat.le_of_lt further)
    have same : p.session.nextStop early = p.session.nextStop target := by
      rcases Nat.le_total early (p.session.nextStop target) with le | le
      · rw [least, Nat.min_eq_left le] at stop
        exact absurd stop (Nat.lt_irrefl early)
      · exact least.trans (Nat.min_eq_right le)
    have ticks : p.tick target = p.tick early := by rw [tick, tick, same]
    have settings := (tick_leads ahead).settings resting.sound
    have onward := ih (tick_resting resting set positive ahead) (settings ▸ set)
      (by rw [tick_now resting.sound ahead]; exact Nat.le_of_lt stop) rest
    exact .next (Nat.lt_trans (same ▸ stop) further) (ticks ▸ onward)

/-! ## The clock -/

/-- The look of one who waits for the time to pass and for nothing else. -/
def watch (_ : Unit) (p : Plugin) : Look Unit Empty × Plugin := (.waiting (), p)

/-- There is fuel for all stops, since time passes from each to the next. -/
theorem await_glides (sound : p.session.Sound) (ahead : p.now < target) {fuel : Nat}
    (enough : target ≤ p.now + fuel) : Glides target p (p.await watch target fuel ()).2 := by
  induction fuel generalizing p with
  | zero => exact absurd ahead (Nat.not_lt.mpr enough)
  | succ fuel ih =>
    have passes := Session.lt_nextStop ahead
    have led := tick_leads (Nat.le_of_lt ahead)
    have now := tick_now sound (Nat.le_of_lt ahead)
    have stops : (p.await watch target (fuel + 1) ()).2 =
        if target ≤ p.session.nextStop target then p.tick target
        else ((p.tick target).await watch target fuel ()).2 := by
      rw [await, watch]
      dsimp only
      split <;> rename_i reached
      · exact (if_pos reached).symm
      · exact (if_neg reached).symm
    rw [stops]
    split <;> rename_i reached
    · exact .last (Nat.le_antisymm (p.session.nextStop_le target) reached)
    · have stop := Nat.lt_of_not_le reached
      refine .next stop (ih (led.sound sound) (now.symm ▸ stop) ?_)
      rw [now]
      refine Nat.le_trans enough ?_
      rw [Nat.add_comm fuel 1, ← Nat.add_assoc]
      exact Nat.add_le_add_right passes fuel

theorem act_advance_zero (h : Resting p) : (p.act (.clock (.advance 0))).2 = p := h.settle

/-- In a span of time a plugin at rest makes all stops on its way, and is at rest again. -/
theorem Resting.glides (h : Resting p) (set : p.session.settings.heartbeatEvery = some every)
    (positive : 0 < every) {span : Duration} (passes : 0 < span) :
    Glides (p.now + span) p (p.act (.clock (.advance span))).2 := by
  have ahead : p.now < p.now + span := Nat.lt_add_of_pos_right passes
  have stops : Glides (p.now + span) p (p.actClock (.advance span)) :=
    await_glides h.sound ahead (Nat.le_refl _)
  have settled : (p.actClock (.advance span)).settle = p.actClock (.advance span) :=
    (stops.resting h set positive (Nat.le_of_lt ahead)).1.settle
  rw [act]
  exact settled.symm ▸ stops

theorem Resting.act_advance (h : Resting p)
    (set : p.session.settings.heartbeatEvery = some every) (positive : 0 < every)
    (span : Duration) :
    Resting (p.act (.clock (.advance span))).2 ∧
      (p.act (.clock (.advance span))).2.now = p.now + span ∧
      (p.act (.clock (.advance span))).2.session.settings.heartbeatEvery = some every := by
  rcases Nat.eq_zero_or_pos span with rfl | passes
  · rw [act_advance_zero h]
    exact ⟨h, rfl, set⟩
  · exact (h.glides set positive passes).resting h set positive (Nat.le_add_right _ _)

theorem Resting.act_advance_add (h : Resting p)
    (set : p.session.settings.heartbeatEvery = some every) (positive : 0 < every)
    (first rest : Duration) :
    ((p.act (.clock (.advance first))).2.act (.clock (.advance rest))).2 =
      (p.act (.clock (.advance (first + rest)))).2 := by
  obtain ⟨resting, now, set'⟩ := h.act_advance set positive first
  rcases Nat.eq_zero_or_pos first with rfl | passes
  · rw [act_advance_zero h, Nat.zero_add]
  rcases Nat.eq_zero_or_pos rest with rfl | passes'
  · exact act_advance_zero resting
  · have further : p.now + first < p.now + first + rest := Nat.lt_add_of_pos_right passes'
    have halt := h.glides set positive passes
    have onward := resting.glides set' positive passes'
    rw [now] at onward
    have both := halt.through h set positive (Nat.le_add_right _ _) further onward
    have whole := h.glides set positive (Nat.add_pos_left passes rest)
    rw [← Nat.add_assoc] at whole
    exact both.unique whole

/-- It makes no difference into which pieces a span of time is cut. -/
theorem Resting.acts_advances (h : Resting p)
    (set : p.session.settings.heartbeatEvery = some every) (positive : 0 < every)
    (spans : List Duration) :
    acts (spans.map fun span => .clock (.advance span)) p =
      (p.act (.clock (.advance (Duration.total spans)))).2 := by
  induction spans generalizing p with
  | nil => exact (act_advance_zero h).symm
  | cons span spans ih =>
    obtain ⟨resting, -, set'⟩ := h.act_advance set positive span
    rw [Duration.total, ← h.act_advance_add set positive]
    exact ih resting set'

end Plugin

end Backchannel
