/-
# Backchannel.Proofs.Session.Status -- status and clock

A move that has a reason to closes a session that is open.  No other move changes the
status of a session, and only one lets time pass: `Governed.ticks` says so of every move.
-/
import Backchannel.Proofs.Session.Turn

namespace Backchannel.Session

set_option autoImplicit false

variable {s s' : Session} {m : Move} {reason : CloseReason}

/-- The time that passes in a move. -/
def Move.passes : Move → Duration
  | .pass span => span
  | _ => 0

/-- A move closes a session that is open if it has a reason to. -/
def nextStatus (s : Session) (m : Move) : Status :=
  match s.status with
  | .closed first => .closed first
  | .opened =>
    match m.closeReason? s with
    | some reason => .closed reason
    | none => .opened

theorem nextStatus_of_none (none : m.closeReason? s = none) : s.nextStatus m = s.status := by
  cases status : s.status <;> simp [nextStatus, status, none]

theorem nextStatus_of_some (some : m.closeReason? s = some reason) :
    s.nextStatus m = (s.shutDown reason).status := by
  cases status : s.status with
  | opened =>
    rw [shutDown_status (by rw [status]; rfl)]
    simp [nextStatus, status, some]
  | closed first =>
    rw [shutDown_of_closed (by rw [status]; rfl), status]
    simp [nextStatus, status]

theorem nextStatus_cases (s : Session) (m : Move) :
    s.nextStatus m = s.status ∨
      ∃ reason, m.closeReason? s = some reason ∧ s.nextStatus m = .closed reason := by
  cases why : m.closeReason? s with
  | none => exact .inl (nextStatus_of_none why)
  | some reason =>
    cases status : s.status with
    | closed first => exact .inl (by simp [nextStatus, status])
    | opened => exact .inr ⟨reason, rfl, by simp [nextStatus, status, why]⟩

/-- What a move makes of status and clock. -/
structure Ticks (s : Session) (m : Move) (s' : Session) : Prop where
  status : s'.status = s.nextStatus m
  now : s'.now = s.now + m.passes

theorem still_ticks (none : m.closeReason? s = none) (still : m.passes = 0)
    (status : s'.status = s.status) (now : s'.now = s.now) : Ticks s m s' where
  status := by rw [status, nextStatus_of_none none]
  now := by rw [now, still]; rfl

theorem SameConnection.ticks (same : SameConnection s s') (none : m.closeReason? s = none)
    (still : m.passes = 0) : Ticks s m s' :=
  still_ticks none still same.status same.now

/-! ## What leaves both alone -/

theorem heed_connection (n : Notice) (s : Session) : SameConnection s (s.heed n) := by
  cases n with
  | nothing => exact ⟨rfl, rfl, rfl, rfl⟩
  | request f =>
    simp only [heed]
    split <;> exact ⟨rfl, rfl, rfl, rfl⟩
  | malformed id how =>
    rw [heed, fail_eq_resolve]
    exact resolve_connection id _ s
  | response r =>
    simp only [heed, route_snd]
    split
    · exact onEntry_connection r.id _ s
    · exact resolve_connection r.id _ s
    · exact ⟨rfl, rfl, rfl, rfl⟩

/-- Reading on, and acting on what was read. -/
theorem hear_connection (unread : Text.Utf8.Bytes) (n : Notice) (s : Session) :
    SameConnection s ({ s with unread := unread }.heed n) := by
  have heed := heed_connection n { s with unread := unread }
  exact ⟨heed.settings, heed.status, heed.writing, heed.now⟩

theorem readByte_connection (s : Session) (b : UInt8) : SameConnection s (s.readByte b) := by
  unfold readByte
  split
  · split
    · exact hear_connection [] _ s
    · exact ⟨rfl, rfl, rfl, rfl⟩
  · exact ⟨rfl, rfl, rfl, rfl⟩

theorem readTail_connection (s : Session) : SameConnection s s.readTail := by
  unfold readTail
  split
  · exact hear_connection [] _ s
  · exact ⟨rfl, rfl, rfl, rfl⟩

theorem Governed.send_connection (h : Governed s) (id : RequestId) (sessionId : Option String)
    (kind : Kind) (payload : Json.Value) :
    SameConnection s (s.send id sessionId kind payload).2 := by
  cases status : s.status.isClosed with
  | true => rw [send_of_closed status]; exact ⟨rfl, rfl, rfl, rfl⟩
  | false => rw [h.send_of_open status]; exact ⟨rfl, rfl, rfl, rfl⟩

theorem Governed.heartbeat_connection (h : Governed s) : SameConnection s s.heartbeat.2 := by
  cases status : s.status.isClosed with
  | true => rw [heartbeat_of_closed status]; exact ⟨rfl, rfl, rfl, rfl⟩
  | false => rw [h.heartbeat_of_open status]; exact ⟨rfl, rfl, rfl, rfl⟩

/-! ## What may close -/

theorem shutDown_now (reason : CloseReason) (s : Session) : (s.shutDown reason).now = s.now := by
  cases status : s.status.isClosed with
  | true => rw [shutDown_of_closed status]
  | false =>
    rw [shutDown_of_open status, failAll_eq]
    exact (resolveEach_connection _ _).now

/-- A move that closes the session, and whatever stops with it. -/
theorem shutDown_ticks (why : m.closeReason? s = some reason) (still : m.passes = 0)
    (status : s'.status = (s.shutDown reason).status)
    (now : s'.now = (s.shutDown reason).now) : Ticks s m s' where
  status := by rw [status, nextStatus_of_some why]
  now := by rw [now, shutDown_now, still]; rfl

theorem stopInput_ticks (why : m.closeReason? s = if s.reading then some reason else none)
    (still : m.passes = 0) : Ticks s m (s.stopInput reason) := by
  unfold stopInput
  split
  · rename_i reads
    exact shutDown_ticks (by rw [why, if_pos reads]) still rfl rfl
  · rename_i stopped
    exact still_ticks (by rw [why, if_neg stopped]) still rfl rfl

theorem failOutput_ticks
    (why : m.closeReason? s = if s.writing && !s.outbox.isEmpty then some reason else none)
    (still : m.passes = 0) : Ticks s m (s.failOutput reason) := by
  unfold failOutput
  split
  · rename_i writes
    exact shutDown_ticks (by rw [why, if_pos writes]) still rfl rfl
  · rename_i idle
    exact still_ticks (by rw [why, if_neg idle]) still rfl rfl

theorem writeNext_ticks (s : Session) : Ticks s .write s.writeNext := by
  unfold writeNext
  cases outbox : s.outbox with
  | nil => exact still_ticks (by simp [Move.closeReason?, outbox]) rfl rfl rfl
  | cons line rest =>
    cases writes : (s.writing && s.accepting) with
    | true => exact still_ticks (by simp_all [Move.closeReason?]) rfl rfl rfl
    | false =>
      refine failOutput_ticks ?_ rfl
      cases writing : s.writing with
      | false => simp [Move.closeReason?, outbox, writing]
      | true =>
        have refuses : s.accepting = false := by simpa [writing] using writes
        simp [Move.closeReason?, outbox, writing, refuses]

/-! ## Every move -/

theorem Governed.ticks (h : Governed s) (m : Move) : Ticks s m (s.step m) := by
  cases m with
  | send id sessionId kind payload =>
    exact (h.send_connection id sessionId kind payload).ticks rfl rfl
  | recv id =>
    rw [step_recv]
    exact (recv_connection id s).ticks rfl rfl
  | heartbeat => exact h.heartbeat_connection.ticks rfl rfl
  | close => exact shutDown_ticks rfl rfl rfl rfl
  | byte b => exact (readByte_connection s b).ticks rfl rfl
  | tail => exact (readTail_connection s).ticks rfl rfl
  | endOfStream => exact stopInput_ticks rfl rfl
  | readError why => exact stopInput_ticks rfl rfl
  | writeError why => exact failOutput_ticks rfl rfl
  | flushError why => exact failOutput_ticks rfl rfl
  | write => exact writeNext_ticks s
  | sweep =>
    have same : SameConnection s s.sweep := sweep_eq s ▸ resolveEach_connection _ s
    exact same.ticks rfl rfl
  | leaveInput =>
    change Ticks s .leaveInput s.leaveInput
    unfold leaveInput
    split <;> exact still_ticks rfl rfl rfl rfl
  | leaveOutput =>
    change Ticks s .leaveOutput s.leaveOutput
    unfold leaveOutput
    split <;> exact still_ticks rfl rfl rfl rfl
  | pass span =>
    refine ⟨?_, rfl⟩
    rw [nextStatus_of_none rfl]
    rfl
  | drop | dropInbound | endOutput | timers => exact still_ticks rfl rfl rfl rfl

/-- The clock never goes back. -/
theorem Governed.now_le (h : Governed s) (m : Move) : s.now ≤ (s.step m).now := by
  rw [(h.ticks m).now]
  exact Nat.le_add_right _ _

end Backchannel.Session
