/-
# Backchannel.Proofs.Session.Timers -- who sets the timers

A session has a timer for the sweep and one for the heartbeat.  Only the task of a timer sets
it: of the moves of a session one is there for that, and every other leaves both timers alone
(`Governed.step_timers`).
-/
import Backchannel.Proofs.Session.Sweep

namespace Backchannel.Session

set_option autoImplicit false

variable {s : Session} {m : Move}

/-- When the next sweep is due and when the next heartbeat, if there is to be one. -/
def timers (s : Session) : Instant × Option Instant := (s.sweepAt, s.beatAt)

theorem resolve_timers (id : RequestId) (c : Closure) (s : Session) :
    (s.resolve id c).timers = s.timers := by
  obtain ⟨table, mailboxes, same⟩ := resolve_rest id c s
  rw [same]
  rfl

theorem shutDown_timers (reason : CloseReason) (s : Session) :
    (s.shutDown reason).timers = s.timers := by
  cases status : s.status.isClosed with
  | true => rw [shutDown_of_closed status]
  | false =>
    rw [shutDown_of_open status, failAll_eq]
    obtain ⟨table, mailboxes, same⟩ := resolveEach_rest
      (s.table.map fun x => (x.1, .failed (CallError.connectionClosed reason).duplicate))
      { s with status := .closed reason }
    rw [same]
    rfl

theorem heed_timers (n : Notice) (s : Session) : (s.heed n).timers = s.timers := by
  cases n with
  | nothing => rfl
  | request f =>
    simp only [heed]
    split <;> rfl
  | malformed id how =>
    rw [heed, fail_eq_resolve]
    exact resolve_timers id _ s
  | response r =>
    simp only [heed, route_snd]
    split
    · simp only [put, onEntry]
      split <;> rfl
    · exact resolve_timers r.id _ s
    · rfl

theorem recv_timers (id : RequestId) (s : Session) : (s.recv id).2.timers = s.timers := by
  cases held : s.ticket? id with
  | none => rw [recv_of_none held]
  | some t =>
    rw [recv_eq held]
    dsimp only
    split
    · rfl
    · split <;> rfl

theorem stopInput_timers (reason : CloseReason) (s : Session) :
    (s.stopInput reason).timers = s.timers := by
  unfold stopInput
  split
  · exact shutDown_timers reason s
  · rfl

theorem failOutput_timers (reason : CloseReason) (s : Session) :
    (s.failOutput reason).timers = s.timers := by
  unfold failOutput
  split
  · exact shutDown_timers reason s
  · rfl

theorem Governed.step_timers (h : Governed s) (other : m.setsTimers = false) :
    (s.step m).timers = s.timers := by
  cases m with
  | timers => cases other
  | send id sessionId kind payload =>
    change (s.send id sessionId kind payload).2.timers = s.timers
    cases status : s.status.isClosed with
    | true => rw [send_of_closed status]
    | false => rw [h.send_of_open status]; rfl
  | recv id =>
    rw [step_recv]
    exact recv_timers id s
  | heartbeat =>
    change s.heartbeat.2.timers = s.timers
    cases status : s.status.isClosed with
    | true => rw [heartbeat_of_closed status]
    | false => rw [h.heartbeat_of_open status]; rfl
  | byte b =>
    change (s.readByte b).timers = s.timers
    unfold readByte
    split
    · split
      · exact heed_timers _ { s with unread := [] }
      · rfl
    · rfl
  | tail =>
    change s.readTail.timers = s.timers
    unfold readTail
    split
    · exact heed_timers _ { s with unread := [] }
    · rfl
  | close => exact shutDown_timers .byPlugin s
  | endOfStream => exact stopInput_timers .endOfStream s
  | readError why => exact stopInput_timers (.readFailed why) s
  | write =>
    change s.writeNext.timers = s.timers
    unfold writeNext
    split
    · rfl
    · split
      · rfl
      · exact failOutput_timers _ s
  | writeError why => exact failOutput_timers (.writeFailed why) s
  | flushError why => exact failOutput_timers (.flushFailed why) s
  | leaveInput =>
    change s.leaveInput.timers = s.timers
    unfold leaveInput
    split <;> rfl
  | leaveOutput =>
    change s.leaveOutput.timers = s.timers
    unfold leaveOutput
    split <;> rfl
  | sweep =>
    change s.sweep.timers = s.timers
    obtain ⟨table, mailboxes, same⟩ := resolveEach_rest s.expiries s
    rw [sweep_eq, same]
    rfl
  | drop | dropInbound | endOutput | pass => rfl

theorem Governed.step_sweepAt (h : Governed s) (other : m.setsTimers = false) :
    (s.step m).sweepAt = s.sweepAt := congrArg Prod.fst (h.step_timers other)

theorem Governed.step_beatAt (h : Governed s) (other : m.setsTimers = false) :
    (s.step m).beatAt = s.beatAt := congrArg Prod.snd (h.step_timers other)

/-! ## The turns of their tasks -/

theorem nextFiring_now (now : Instant) (period : Duration) :
    nextFiring now now period = now + period := by
  unfold nextFiring
  split <;> rfl

theorem lt_nextFiring {due now : Instant} {period : Duration} (positive : 0 < period)
    (inTime : now ≤ due) : now < nextFiring due now period := by
  unfold nextFiring
  split
  · exact Nat.lt_add_of_pos_right positive
  · exact Nat.lt_of_le_of_lt inTime (Nat.lt_add_of_pos_right positive)

theorem sweepPeriod_pos (s : Session) : 0 < s.sweepPeriod :=
  Nat.lt_of_lt_of_le (by decide) (Nat.le_max_right _ (Duration.ofMillis 10))

/-- The task that sweeps has nothing to do yet, or it sweeps and sets its timer anew. -/
theorem fireSweep_cases (s : Session) :
    (s.reading = true → s.now < s.sweepAt) ∧ s.fireSweep = s ∨
      ∃ next, (s.now ≤ s.sweepAt → s.now < next) ∧
        s.fireSweep = { s.sweep with sweepAt := next } := by
  unfold fireSweep
  split
  · exact .inr ⟨_, lt_nextFiring s.sweepPeriod_pos, rfl⟩
  · rename_i early
    refine .inl ⟨fun reads => ?_, rfl⟩
    simpa [reads] using early

/-- It has nothing to do with the lines or with heartbeats. -/
theorem fireSweep_shared (s : Session) :
    s.fireSweep.backdrop = s.backdrop ∧ s.fireSweep.beatAt = s.beatAt := by
  rcases fireSweep_cases s with ⟨-, idle⟩ | ⟨next, -, swept⟩
  · rw [idle]
    exact ⟨rfl, rfl⟩
  · obtain ⟨table, mailboxes, same⟩ := resolveEach_rest s.expiries s
    rw [swept]
    exact ⟨(sweep_leaves s).backdrop, by rw [sweep_eq, same]⟩

theorem fireBeats_ahead (ahead : s.settings.heartbeatEvery = none ∨
    ∀ due, s.beatAt = some due → s.now < due) (fuel : Nat) : fireBeats fuel s = s := by
  cases fuel with
  | zero => rfl
  | succ fuel =>
    simp only [fireBeats]
    cases timer : s.beatAt with
    | none => rfl
    | some due =>
      cases set : s.settings.heartbeatEvery with
      | none => rfl
      | some every =>
        have early : s.now < due := by simpa [set, timer] using ahead
        exact if_neg (Nat.not_le.mpr early)

variable {due : Instant} {every : Duration}

theorem fireBeats_refused (closed : s.status.isClosed = true)
    (set : s.settings.heartbeatEvery = some every) (timer : s.beatAt = some due)
    (late : due ≤ s.now) (fuel : Nat) : fireBeats (fuel + 1) s = { s with beatAt := none } := by
  simp only [fireBeats]
  rw [timer, set]
  dsimp only
  rw [if_pos late, heartbeat_of_closed closed]

theorem Governed.fireBeats_sent (h : Governed s) (opened : s.status.isClosed = false)
    (set : s.settings.heartbeatEvery = some every) (timer : s.beatAt = some due)
    (late : due ≤ s.now) (fuel : Nat) :
    fireBeats (fuel + 1) s = fireBeats fuel { s with
      outbox := s.outbox ++ [OutboundFrame.heartbeat.toLine]
      beatAt := some (nextFiring due s.now (min every maxWait)) } := by
  simp only [fireBeats]
  rw [timer, set]
  dsimp only
  rw [if_pos late, h.heartbeat_of_open opened]

/-- All that the task of the heartbeat can do in a turn. -/
inductive BeatTurn (s : Session) : Session → Prop where
  /-- No heartbeat is due. -/
  | idle (ahead : s.settings.heartbeatEvery = none ∨ ∀ due, s.beatAt = some due → s.now < due) :
    BeatTurn s s
  /-- Its heartbeat is refused, and it stops. -/
  | refused (closed : s.status.isClosed = true) : BeatTurn s { s with beatAt := none }
  | sent {due : Instant} {every : Duration} (opened : s.status.isClosed = false)
    (set : s.settings.heartbeatEvery = some every) (timer : s.beatAt = some due)
    (late : due ≤ s.now) :
    BeatTurn s { s with
      outbox := s.outbox ++ [OutboundFrame.heartbeat.toLine]
      beatAt := some (nextFiring due s.now (min every maxWait)) }

theorem Governed.beatTurn (h : Governed s) : BeatTurn s (fireBeats 1 s) := by
  cases timer : s.beatAt with
  | none =>
    have ahead : ∀ due, s.beatAt = some due → s.now < due := by simp [timer]
    rw [fireBeats_ahead (.inr ahead)]
    exact .idle (.inr ahead)
  | some due =>
    cases set : s.settings.heartbeatEvery with
    | none =>
      rw [fireBeats_ahead (.inl set)]
      exact .idle (.inl set)
    | some every =>
      by_cases late : due ≤ s.now
      · cases status : s.status.isClosed with
        | true =>
          rw [fireBeats_refused status set timer late]
          exact .refused status
        | false =>
          rw [h.fireBeats_sent status set timer late, fireBeats]
          exact .sent status set timer late
      · have ahead : ∀ due, s.beatAt = some due → s.now < due := by
          simpa [timer] using Nat.lt_of_not_le late
        rw [fireBeats_ahead (.inr ahead)]
        exact .idle (.inr ahead)

/-- Beyond the outbox it changes nothing but its timer. -/
theorem Governed.beat_rest (h : Governed s) :
    (fireBeats 1 s).now = s.now ∧ (fireBeats 1 s).status = s.status ∧
      (fireBeats 1 s).reading = s.reading ∧ (fireBeats 1 s).sweepAt = s.sweepAt := by
  have turn := h.beatTurn
  generalize fireBeats 1 s = s' at turn
  cases turn <;> exact ⟨rfl, rfl, rfl, rfl⟩

/-- If the moment of a heartbeat has not been missed, one turn is enough, and the next is
ahead. -/
theorem Governed.fireBeats_once (h : Governed s) (set : s.settings.heartbeatEvery = some every)
    (positive : 0 < every)
    (reached : s.status.isClosed = false → ∀ due, s.beatAt = some due → s.now ≤ due) (fuel : Nat) :
    fireBeats (fuel + 1) s = fireBeats 1 s ∧
      (s.status.isClosed = false → ∀ due, (fireBeats 1 s).beatAt = some due → s.now < due) := by
  rcases Decidable.em (∃ due, s.beatAt = some due ∧ due ≤ s.now) with ⟨due, timer, late⟩ | none
  · cases status : s.status.isClosed with
    | true =>
      rw [fireBeats_refused status set timer late, fireBeats_refused status set timer late]
      exact ⟨rfl, nofun⟩
    | false =>
      have next : ∀ other, some (nextFiring due s.now (min every maxWait)) = some other →
          s.now < other := by
        rintro other same
        rw [← Option.some.inj same]
        exact lt_nextFiring (Nat.lt_min.mpr ⟨positive, by decide⟩) (reached status due timer)
      rw [h.fireBeats_sent status set timer late, h.fireBeats_sent status set timer late,
        fireBeats_ahead (.inr next), fireBeats_ahead (.inr next)]
      exact ⟨rfl, fun _ => next⟩
  · have ahead : ∀ due, s.beatAt = some due → s.now < due :=
      fun due timer => Nat.lt_of_not_le fun late => none ⟨due, timer, late⟩
    rw [fireBeats_ahead (.inr ahead), fireBeats_ahead (.inr ahead)]
    exact ⟨rfl, fun _ => ahead⟩

end Backchannel.Session
