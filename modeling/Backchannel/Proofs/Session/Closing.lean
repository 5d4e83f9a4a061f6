/-
# Backchannel.Proofs.Session.Closing -- closing is final, and no one is forgotten

Any of six moves can close a session.  The first to do so gives the reason, and with
that reason every request ends that was outstanding then: its caller gets what waits for
it, is told the reason once, and after that there is only the end (`closing_final`).  A
request that had ended before ends as it would have.  Nothing is sent any more.

Two reasons are only there for a writer that stops before the session is closed.  It
never does (`Governed.writing`), so no one ever sees them.
-/
import Backchannel.Proofs.Session.Status

namespace Backchannel

set_option autoImplicit false

open Backchannel.Json (Value)

/-- What is told of a session whose writer stops too early. -/
def CloseReason.IsFallback : CloseReason → Prop
  | .shuttingDown | .writerStopped => True
  | _ => False

namespace Session

variable {s : Session} {id : RequestId} {m : Move} {reason : CloseReason}

/-! ## Reasons -/

theorem closeReason?_genuine (why : m.closeReason? s = some reason) : ¬ reason.IsFallback := by
  have written (line : String) : ¬ (writeFailure line).IsFallback := by
    unfold writeFailure
    split <;> exact id
  cases m with
  | close => cases why; exact id
  | write =>
    simp only [Move.closeReason?] at why
    split at why
    · cases why
    · split at why
      · cases why; exact written _
      · cases why
  | endOfStream | readError | writeError | flushError =>
    simp only [Move.closeReason?] at why
    split at why
    · cases why; exact id
    · cases why
  | _ => cases why

/-- No one is told of a writer that stops too early. -/
structure Candid (s : Session) : Prop where
  status : ∀ reason, s.status = .closed reason → ¬ reason.IsFallback
  closure : ∀ id t reason, s.ticket? id = some t →
    t.box.closure = some (.failed (.connectionClosed reason)) → ¬ reason.IsFallback

theorem candid_start (settings : Settings) : Candid (start settings) where
  status := by
    intro reason closed
    cases closed
  closure := by
    intro id t reason held
    cases held

theorem Candid.step (h : Candid s) (sound : Sound s) (m : Move) : Candid (s.step m) where
  status := by
    intro reason closed
    rw [(sound.toGoverned.ticks m).status] at closed
    rcases nextStatus_cases s m with same | ⟨other, why, next⟩
    · exact h.status reason (same ▸ closed)
    · rw [next] at closed
      cases closed
      exact closeReason?_genuine why
  closure := by
    intro id t reason held closed
    rw [(sound.step m).ticket] at held
    rcases Turn.apply_closure held closed with ⟨before, held, closed⟩ | finished | own | opened
    · exact h.closure id before reason held closed
    · cases finished
    · exact closeReason?_genuine (turn_connectionClosed own)
    · obtain ⟨-, -, kind, -, -, rfl⟩ := turn_opened opened
      cases closed

theorem Candid.run (h : Candid s) (sound : Sound s) (ms : List Move) : Candid (run ms s) := by
  induction ms generalizing s with
  | nil => exact h
  | cons m ms ih => exact ih (h.step sound m) (sound.step m).toSound

/-- What a session that is closed answers to who wants to send. -/
theorem refusal_of_closed (closed : s.status = .closed reason) :
    s.refusal = .connectionClosed reason := by
  simp [refusal, closed]

/-- What the caller of a request is told of a close is how its mailbox was closed. -/
theorem pull_tells {t : Ticket} {id : RequestId} {now : Instant}
    (told : (t.pull id now).1 = .failed (.connectionClosed reason)) :
    t.box.closure = some (.failed (.connectionClosed reason)) := by
  cases done : t.sub.done with
  | true =>
    rw [Ticket.pull_of_done done] at told
    cases told
  | false =>
    rcases Ticket.pull_cases done id now with ⟨-, pull⟩ | ⟨-, v, rest, -, pull⟩ |
      ⟨-, -, c, closure, pull⟩ | ⟨-, -, -, -, pull⟩ | ⟨-, -, -, -, pull⟩ <;> rw [pull] at told
    · cases told
    · cases told
    · cases c with
      | finished => cases told
      | failed e => cases e <;> cases told; exact closure
    · cases told
    · cases told

theorem Candid.refusal (h : Candid s) (closed : s.status.isClosed = true)
    (fallback : reason.IsFallback) : s.refusal ≠ .connectionClosed reason := by
  cases status : s.status with
  | opened => simp [status, Status.isClosed] at closed
  | closed first =>
    rw [refusal_of_closed status]
    rintro same
    cases same
    exact h.status reason status fallback

theorem Candid.answer (h : Candid s) (sound : Sound s) (m : Move) (fallback : reason.IsFallback) :
    ¬ (s.perform m).1.tells reason := by
  cases m with
  | send id sessionId kind payload =>
    change ¬ Answer.tells reason (.sent (s.send id sessionId kind payload).1)
    cases status : s.status.isClosed with
    | true =>
      rw [send_of_closed status]
      exact h.refusal status fallback
    | false =>
      rw [sound.toGoverned.send_of_open status]
      exact not_false
  | heartbeat =>
    change ¬ Answer.tells reason (.sent s.heartbeat.1)
    cases status : s.status.isClosed with
    | true =>
      rw [heartbeat_of_closed status]
      exact h.refusal status fallback
    | false =>
      rw [sound.toGoverned.heartbeat_of_open status]
      exact not_false
  | recv id =>
    intro tells
    cases held : s.ticket? id with
    | none =>
      rw [perform, recv_of_none held] at tells
      split at tells <;> cases tells
    | some t =>
      rw [perform, recv_eq held] at tells
      split at tells
      · exact h.closure id t reason held (pull_tells tells) fallback
      · cases tells
  | _ => exact not_false

/-! ## After a close -/

theorem Governed.step_closed (h : Governed s) (closed : s.status = .closed reason) (m : Move) :
    (s.step m).status = .closed reason := by
  rw [(h.ticks m).status, nextStatus, closed]

theorem Governed.opened_step (h : Governed s) {m : Move}
    (opened : (s.step m).status.isClosed = false) : s.status.isClosed = false := by
  cases status : s.status with
  | opened => rfl
  | closed reason =>
    rw [h.step_closed status m] at opened
    cases opened


theorem Sound.run_closed (h : Sound s) (closed : s.status = .closed reason) (ms : List Move) :
    (Session.run ms s).status = .closed reason := by
  induction ms generalizing s with
  | nil => exact closed
  | cons m ms ih => exact ih (h.step m).toSound (h.toGoverned.step_closed closed m)

/-- A session that is open has been open all along. -/
theorem Sound.opened_before (h : Sound s) {ms : List Move}
    (opened : (Session.run ms s).status = .opened) : s.status.isClosed = false := by
  cases status : s.status with
  | opened => rfl
  | closed reason =>
    rw [h.run_closed status ms] at opened
    cases opened

/-- No request is made any more. -/
theorem turn_ne_opened (closed : s.status = .closed reason) (m : Move) (id : RequestId)
    (t : Ticket) : turn m s id ≠ .opened t := by
  intro opened
  obtain ⟨isOpen, -⟩ := turn_opened opened
  rw [closed] at isOpen
  cases isOpen

/-- What becomes of a ticket that is not open. -/
theorem Turn.apply_of_not_open {turn : Turn} {t : Ticket} (ended : t.isOpen = false)
    (made : ∀ new, turn ≠ .opened new) :
    turn.apply id (some t) = some t ∧ turn.pull? id (some t) = none ∨
      (∃ now, turn = .pulled now) ∨ turn = .dropped := by
  cases turn with
  | idle => exact .inl ⟨rfl, rfl⟩
  | opened new => exact absurd rfl (made new)
  | item v => exact .inl ⟨congrArg some (Ticket.put_of_not_open ended v), rfl⟩
  | closed c => exact .inl ⟨congrArg some (Ticket.close_of_not_open ended c), rfl⟩
  | pulled now => exact .inr (.inl ⟨now, rfl⟩)
  | dropped => exact .inr (.inr rfl)

/-- Who has let go of a request pulls nothing any more. -/
theorem Sound.pulls_of_none (h : Sound s) (closed : s.status = .closed reason)
    (absent : s.ticket? id = none) (ms : List Move) : pulls id (steps ms s) = [] := by
  induction ms generalizing s with
  | nil => rfl
  | cons m ms ih =>
    have next := (h.step m).ticket id
    rw [absent] at next
    have quiet : (turn m s id).apply id none = none ∧ (turn m s id).pull? id none = none := by
      cases own : turn m s id with
      | opened t => exact absurd own (turn_ne_opened closed m id t)
      | _ => exact ⟨rfl, rfl⟩
    have rest := ih (h.step m).toSound (h.toGoverned.step_closed closed m) (next.trans quiet.1)
    rw [steps_cons, pulls, filterMap_cons, h.pull?_eq, absent, quiet.2]
    exact rest

/-- The caller of a request that has ended pulls what is left, and then the end. -/
theorem Sound.pulls_of_ended (h : Sound s) (closed : s.status = .closed reason) {t : Ticket}
    (held : s.ticket? id = some t) (ended : t.isOpen = false) (ms : List Move) :
    ∃ n, pulls id (steps ms s) <+: t.outcome ++ List.replicate n .finished := by
  induction ms generalizing s t with
  | nil => exact ⟨0, List.nil_prefix⟩
  | cons m ms ih =>
    have next := (h.step m).ticket id
    have pull := h.pull?_eq id m
    have still := h.toGoverned.step_closed closed m
    rw [held] at next pull
    have split : pulls id (steps (m :: ms) s) =
        (Step.pull? id ⟨s, m⟩).toList ++ pulls id (steps ms (s.step m)) := filterMap_cons _ _ _
    rw [split, pull]
    rcases Turn.apply_of_not_open ended (turn_ne_opened closed m id) with ⟨same, quiet⟩ |
      ⟨now, pulled⟩ | dropped
    · rw [quiet]
      exact ih (h.step m).toSound still (next.trans same) ended
    · rw [pulled] at next ⊢
      obtain ⟨n, rest⟩ := ih (h.step m).toSound still next (Ticket.pull_not_open ended id now)
      change ∃ n, (t.pull id now).1 :: pulls id (steps ms (s.step m)) <+: _
      rcases Ticket.pull_outcome ended id now with ⟨empty, last, empty'⟩ | first
      · rw [empty'] at rest
        refine ⟨n + 1, ?_⟩
        rw [empty, last]
        exact List.prefix_cons_iff.mpr (.inr ⟨_, rfl, rest⟩)
      · refine ⟨n, ?_⟩
        rw [first]
        exact List.prefix_cons_iff.mpr (.inr ⟨_, rfl, rest⟩)
    · rw [dropped] at next ⊢
      rw [h.step m |>.toSound.pulls_of_none still next ms]
      exact ⟨0, List.nil_prefix⟩

/-- What a move that closes the session means for what comes after it. -/
structure Final (reason : CloseReason) (before : Session) (m : Move) (ms : List Move) : Prop where
  cause : m.closeReason? before = some reason
  stands : (run ms (before.step m)).status = .closed reason
  emptied : (run ms (before.step m)).table = []
  /-- The caller of a request that was outstanding gets what waits for it and is told the
  reason, unless it fell behind. -/
  failed : ∀ id, before.isOutstanding id = true → ∃ t n, before.ticket? id = some t ∧
    pulls id (steps ms (before.step m)) <+:
      (if 0 < t.box.dropped then [.failed (.lagged t.box.id t.box.dropped)]
        else t.box.items.map .item ++ [.failed (.connectionClosed reason)]) ++
        List.replicate n .finished
  /-- A request that had ended before ends as it would have. -/
  kept : ∀ id t, before.isOutstanding id = false → before.ticket? id = some t →
    (before.step m).ticket? id = some t ∧
      ∃ n, pulls id (steps ms (before.step m)) <+: t.outcome ++ List.replicate n .finished
  refused : ∀ id sessionId kind payload, (run ms (before.step m)).send id sessionId kind payload =
    (.error (.connectionClosed reason), run ms (before.step m))
  silent : (run ms (before.step m)).heartbeat =
    (.error (.connectionClosed reason), run ms (before.step m))

theorem Sound.final (h : Sound s) (opened : s.status = .opened)
    (closed : (s.step m).status = .closed reason) (ms : List Move) : Final reason s m ms := by
  have next := (h.step m).toSound
  have stands := next.run_closed closed ms
  have isClosed : (Session.run ms (s.step m)).status.isClosed = true := by rw [stands]; rfl
  have cause : m.closeReason? s = some reason := by
    have status := (h.toGoverned.ticks m).status
    rw [closed] at status
    rcases nextStatus_cases s m with same | ⟨other, why, became⟩
    · rw [← status, opened] at same
      cases same
    · rw [← status] at became
      cases became
      exact why
  have own := turn_of_closeReason (by rw [opened]; rfl) cause
  refine ⟨cause, stands, (next.run ms).emptied isClosed, fun id waits => ?_,
    fun id t settled held => ?_, fun id sessionId kind payload => ?_, ?_⟩
  · obtain ⟨t, held, isOpen⟩ := h.isOutstanding_iff.mp waits
    obtain ⟨awaits, unclosed⟩ := Ticket.isOpen_iff.mp isOpen
    have told : (s.step m).ticket? id = some (t.close (.failed (.connectionClosed reason))) := by
      rw [(h.step m).ticket, own id, held]
      rfl
    obtain ⟨n, brought⟩ := next.pulls_of_ended closed told (t.close_isOpen _) ms
    refine ⟨t, n, held, ?_⟩
    simpa [Ticket.close, isOpen, Ticket.outcome, awaits, Mailbox.close, unclosed, Mailbox.remains,
      Closure.pulled, CallError.duplicate] using brought
  · have ended := h.not_open held settled
    have same : (s.step m).ticket? id = some t := by
      rw [(h.step m).ticket, own id, held]
      exact congrArg some (Ticket.close_of_not_open ended _)
    exact ⟨same, next.pulls_of_ended closed same ended ms⟩
  · rw [send_of_closed isClosed, refusal_of_closed stands]
  · rw [heartbeat_of_closed isClosed, refusal_of_closed stands]

/-- Closing is final: the first reason stands, every request that was outstanding is told
of it, and nothing is sent any more.  The fallback reasons are never seen. -/
theorem closing_final (settings : Settings) :
    (∀ ms m reason, reason.IsFallback → (run ms (start settings)).status ≠ .closed reason ∧
        ¬ ((run ms (start settings)).perform m).1.tells reason) ∧
      ∀ ms m after reason, (run ms (start settings)).status = .opened →
        (run (ms ++ [m]) (start settings)).status = .closed reason →
          Final reason (run ms (start settings)) m after := by
  have sound := sound_run settings
  refine ⟨fun ms m reason fallback => ?_, fun ms m after reason opened closed => ?_⟩
  · have candid := (candid_start settings).run (sound_start settings) ms
    exact ⟨fun closed => candid.status reason closed fallback, candid.answer (sound ms) m fallback⟩
  · rw [run_snoc] at closed
    exact (sound ms).final opened closed after

/-- An item waits for a caller when the daemon hangs up. -/
def waiting : List Move :=
  .send "last" none .storage .null :: hears (.item "last" (.bool true))

theorem waiting_hangUp :
    (run waiting (start ⟨5, none, 1⟩)).status = .opened ∧
      (run (waiting ++ [.endOfStream]) (start ⟨5, none, 1⟩)).status = .closed .endOfStream ∧
      pulls "last" (steps [.recv "last", .recv "last", .recv "last"]
          (run (waiting ++ [.endOfStream]) (start ⟨5, none, 1⟩))) =
        [.item (.bool true), .failed (.connectionClosed .endOfStream), .finished] ∧
      Final .endOfStream (run waiting (start ⟨5, none, 1⟩)) .endOfStream
        [.recv "last", .recv "last", .recv "last"] := by
  obtain ⟨opened, closed, got⟩ : (run waiting (start ⟨5, none, 1⟩)).status = .opened ∧
      (run (waiting ++ [.endOfStream]) (start ⟨5, none, 1⟩)).status = .closed .endOfStream ∧
      pulls "last" (steps [.recv "last", .recv "last", .recv "last"]
          (run (waiting ++ [.endOfStream]) (start ⟨5, none, 1⟩))) =
        [.item (.bool true), .failed (.connectionClosed .endOfStream), .finished] := by
    decide +kernel
  exact ⟨opened, closed, got, (closing_final ⟨5, none, 1⟩).2 _ _ _ _ opened closed⟩

end Session

end Backchannel
