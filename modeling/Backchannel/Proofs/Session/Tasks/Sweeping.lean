/-
# Backchannel.Proofs.Session.Tasks.Sweeping -- no entry outlives its deadline by much

Nobody has to ask after a request for its entry to go.  The reader sweeps, and when all that
is due is done, the last sweep lies less than one period back.  An entry that was there
then had its deadline ahead, and the deadline of a newer one is newer still, so none is
overdue by a whole period (`expired_swept`).

What carries this through a run is `Timely`: the next sweep is at most a period away, and
no entry is overdue by more than a period when it comes.  The first half is needed for a
clock that jumps: a sweep that is late counts its period from when it was done.
-/
import Backchannel.Proofs.Session.Tasks.Close
import Backchannel.Proofs.Session.Timers

namespace Backchannel

set_option autoImplicit false

namespace Session

variable {s : Session} {id : RequestId}

/-! ## Entries and sweeps -/

/-- The next sweep comes within a period, and finds no entry overdue by more than that. -/
structure Timely (settings : Settings) (s : Session) : Prop where
  settings : s.settings = settings
  soon : s.sweepAt ≤ s.now + s.sweepPeriod
  inTime : s.now < s.sweepAt →
    ∀ id e, s.table.get? id = some e → s.sweepAt ≤ e.deadline + s.sweepPeriod

variable {settings : Settings}

theorem timely_start (settings : Settings) : Timely settings (start settings) where
  settings := rfl
  soon := Nat.zero_le _
  inTime := by
    intro ahead
    cases ahead

theorem sweepPeriod_congr {s' : Session} (same : s'.settings = s.settings) :
    s'.sweepPeriod = s.sweepPeriod := by
  rw [sweepPeriod, same]
  rfl

theorem Timely.step (h : Timely settings s) (sound : Sound s) {m : Move}
    (other : m.setsTimers = false) : Timely settings (s.step m) := by
  have at_ := sound.toGoverned.step_sweepAt other
  have kept := (sound.step m).settings
  have later := sound.toGoverned.now_le m
  refine ⟨kept.trans h.settings, ?_, fun ahead id e found => ?_⟩
  · rw [at_, sweepPeriod_congr kept]
    exact Nat.le_trans h.soon (Nat.add_le_add_right later _)
  · rw [at_] at ahead ⊢
    rw [sweepPeriod_congr kept]
    rcases sound.toGoverned.step_entry m found with before | ⟨kind, rfl⟩
    · exact h.inTime (Nat.lt_of_le_of_lt later ahead) id e before
    · exact Nat.le_trans h.soon (Nat.add_le_add_right (Nat.le_add_right _ _) _)

theorem Timely.run (h : Timely settings s) (sound : Sound s) (ms : List Move)
    (others : ∀ m ∈ ms, m.setsTimers = false) : Timely settings (Session.run ms s) := by
  induction ms generalizing s with
  | nil => exact h
  | cons m ms ih =>
    exact ih (h.step sound (others m List.mem_cons_self)) (sound.step m).toSound
      fun later among => others later (List.mem_cons_of_mem _ among)

/-- A sweep may be due. -/
theorem timely_of_due (own : s.settings = settings) (due : s.sweepAt ≤ s.now) :
    Timely settings s where
  settings := own
  soon := Nat.le_trans due (Nat.le_add_right _ _)
  inTime := fun ahead => absurd due (Nat.not_le_of_lt ahead)

theorem nextFiring_le {due now : Instant} (late : due ≤ now) (period : Duration) :
    nextFiring due now period ≤ now + period := by
  unfold nextFiring
  split
  · exact Nat.le_refl _
  · exact Nat.add_le_add_right late _

/-- Right after a sweep no entry is overdue. -/
theorem Timely.swept (h : Timely settings s) (registered : Registered s) {sweepAt : Instant}
    (beatAt : Option Instant) (soon : sweepAt ≤ s.now + s.sweepPeriod) :
    Timely settings { s.sweep with sweepAt := sweepAt, beatAt := beatAt } := by
  have same : SameConnection s s.sweep := sweep_eq s ▸ resolveEach_connection s.expiries s
  have period := sweepPeriod_congr same.settings
  refine ⟨same.settings.trans h.settings, ?_, fun _ id e found => ?_⟩
  · change sweepAt ≤ s.sweep.now + s.sweep.sweepPeriod
    rw [same.now, period]
    exact soon
  · change sweepAt ≤ e.deadline + s.sweep.sweepPeriod
    have kept := Keyed.mem_of_get? (show s.sweep.table.get? id = some e from found)
    rw [registered.sweep_entries] at kept
    have ahead := of_decide_eq_true (List.mem_filter.mp kept).2
    rw [period]
    exact Nat.le_trans soon (Nat.add_le_add_right (Nat.le_of_lt ahead) _)

end Session

namespace Tasks

variable {t t' : Tasks} {past : List Step} {settings : Settings}

open Session (Timely Move)

theorem Tracked.timely_perform (h : Tracked t) (timely : Timely settings t.session)
    {ms : List Move} (others : ∀ m ∈ ms, m.setsTimers = false) :
    Timely settings (t.perform ms).session :=
  timely.run h.sound ms others

theorem Tracked.timely_poll (h : Tracked t) (timely : Timely settings t.session) {p : Poll}
    (does : Does t p t') : Timely settings t'.session := by
  cases does with
  | @start k fresh =>
    cases k with
    | reader => exact Session.timely_of_due timely.settings (Nat.le_refl _)
    | writer => exact timely
  | @leave k seen loops news closed =>
    cases k <;> exact timely.run h.sound [_] (List.forall_mem_singleton.mpr rfl)
  | @look k => cases k <;> exact timely
  | @byte seen b rest =>
    exact timely.run h.sound [.byte b] (List.forall_mem_singleton.mpr rfl)
  | tail => exact h.timely_perform timely (by simp [Move.setsTimers])
  | @ending seen e loops read ended =>
    cases e <;> exact h.timely_perform timely (by simp [Ending.moves, Move.setsTimers])
  | sweep loops due =>
    exact timely.swept h.sound.toRegistered t.session.beatAt (Session.nextFiring_le due _)
  | line | shutDown => exact timely
  | hand | failWrite | failFlush => exact h.timely_perform timely (by simp [Move.setsTimers])

theorem Tracked.timely_next (h : Tracked t) (timely : Timely settings t.session)
    (next : Next t t') : Timely settings t'.session := by
  cases next with
  | idle | arrive | finish | outlet => exact timely
  | @outside m outside =>
    refine h.timely_perform timely (List.forall_mem_singleton.mpr ?_)
    cases m <;> first | rfl | cases outside
  | poll does => exact h.timely_poll timely does

theorem Tracked.timely_run (h : Tracked t) (timely : Timely settings t.session)
    (acts : List Act) : Timely settings (Tasks.run acts t).session := by
  induction acts generalizing t with
  | nil => exact timely
  | cons a acts ih =>
    have next := next_step t a
    exact ih (h.next next) (h.timely_next timely next)

/-! ## When nothing is left to do -/

/-- As long as the session is open, the reader that has nothing to do waits for the next
sweep. -/
theorem Traced.sweep_ahead (h : Traced past t) (opened : t.session.status = .opened)
    (quiet : t.Quiet) : t.session.now < t.session.sweepAt := by
  have started := quiet.started .reader
  have swept := quiet .sweep
  cases reader : t.reader with
  | fresh => exact absurd reader started
  | writing seen => exact absurd reader (h.reads seen)
  | left =>
    have closed : t.session.status.isClosed = true := h.fits.closed (.inl reader)
    rw [opened] at closed
    cases closed
  | looping seen =>
    simp only [poll, reader] at swept
    split at swept
    · cases swept
    · rename_i ahead
      exact Nat.lt_of_not_le ahead

/-- No request is overdue for long, in the state that a run has come to. -/
structure Punctual (settings : Settings) (t : Tasks) : Prop where
  /-- In an open session that has nothing left to do, no entry is overdue by as much as the
  time between two sweeps. -/
  fresh : t.session.status = .opened → t.Quiet → ∀ e ∈ t.session.table,
    t.session.now <
      e.2.deadline + max (min settings.requestTimeout (.ofSeconds 1)) (.ofMillis 10)
  /-- Whenever the reader sweeps, it fails what is overdue and nothing else, -/
  sweep : Session.Sweeps t.session t.session.sweepExpired.1 t.session.sweepExpired.2
  /-- and then only sets the timer for the next time. -/
  polled : ∀ t', t.poll .sweep = some t' → t'.session =
    { t.session.sweepExpired.2 with
      sweepAt := Session.nextFiring t.session.sweepAt t.session.now t.session.sweepPeriod }

/-- Whatever happens and however the tasks take turns, expired entries do not stay. -/
theorem expired_swept (settings : Settings) (acts : List Act) :
    Punctual settings (run acts (spawn settings)) := by
  have traced := (traced_spawn settings).run acts
  have timely := (tracked_spawn settings).timely_run (Session.timely_start settings) acts
  generalize run acts (spawn settings) = t at traced timely
  have sweeps := traced.sound.toRegistered.sweeps
  refine ⟨fun opened quiet e present => ?_, sweeps, fun t' polled => ?_⟩
  · have ahead := traced.sweep_ahead opened quiet
    have found := Keyed.get?_of_mem traced.sound.toRegistered.nodup present
    have soon := timely.inTime ahead e.1 e.2 found
    rw [Session.sweepPeriod, timely.settings] at soon
    exact Nat.lt_of_lt_of_le ahead soon
  · have beats : t.session.sweepExpired.2.beatAt = t.session.beatAt :=
      (congrArg Session.beatAt sweeps.rest).trans rfl
    cases does_of_poll polled
    change ({ t.session.sweepExpired.2 with
      sweepAt := _, beatAt := t.session.beatAt } : Session) = _
    rw [← beats]

/-- A request is made that is overdue at once, and nobody pulls for it. -/
def neglected : List Act :=
  [.poll (.start .reader), .poll (.start .writer), .poll .sweep,
    .outside (.send "a" none .tool .null), .poll .line, .poll .handOver, .outside (.pass 9999999)]

/-- Nothing is left to do, and the entry is there to the last moment before the next sweep. -/
theorem neglected_punctual :
    (run neglected (spawn ⟨0, none, 1⟩)).session.status = .opened ∧
      (run neglected (spawn ⟨0, none, 1⟩)).Quiet ∧
      ∃ e, (run neglected (spawn ⟨0, none, 1⟩)).session.table = [("a", e)] ∧
        (run neglected (spawn ⟨0, none, 1⟩)).session.now = e.deadline + 9999999 ∧
        (run neglected (spawn ⟨0, none, 1⟩)).session.now < e.deadline +
          max (min 0 (Duration.ofSeconds 1)) (Duration.ofMillis 10) := by
  have opened : (run neglected (spawn ⟨0, none, 1⟩)).session.status = .opened := by decide +kernel
  have quiet : (run neglected (spawn ⟨0, none, 1⟩)).Quiet := by
    intro p
    apply Option.isNone_iff_eq_none.mp
    cases p with
    | start k | wake k => cases k <;> decide +kernel
    | _ => decide +kernel
  have present :
      (run neglected (spawn ⟨0, none, 1⟩)).session.table = [("a", ⟨.tool, 0, 0, 0⟩)] := by
    decide +kernel
  have late : (run neglected (spawn ⟨0, none, 1⟩)).session.now = 9999999 := by decide +kernel
  refine ⟨opened, quiet, _, present, late, ?_⟩
  have kept := (expired_swept ⟨0, none, 1⟩ neglected).fresh opened quiet
  rw [present] at kept
  exact kept _ List.mem_cons_self

/-- A moment later the sweep is due, and takes it. -/
example : (run (neglected ++ [.outside (.pass 1), .poll .sweep])
    (spawn ⟨0, none, 1⟩)).session.table = [] := by
  decide +kernel

end Tasks

end Backchannel
