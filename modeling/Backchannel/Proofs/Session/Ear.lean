/-
# Backchannel.Proofs.Session.Ear -- what only the reader looks at

The bytes of a line that is not yet whole, whether the plugin still takes requests of the
daemon, and those it was handed: nobody but the reader and the one who takes the requests
looks at them (`Ear`).  Every other move does the same whatever they are, and leaves them as
they are (`step_withEar`); so it does not matter where in the middle of a line such a move is
made.
-/
import Backchannel.Proofs.Session.Turn

namespace Backchannel

set_option autoImplicit false

open Backchannel.Json (Value)
open Backchannel.Text.Utf8 (Bytes)

/-- What only the reader looks at. -/
structure Ear where
  /-- The bytes of the line that is being read, last byte first. -/
  unread : Bytes
  listening : Bool
  inbound : List InboundFrame

namespace Session

variable {s : Session} {m : Move}

def ear (s : Session) : Ear := ⟨s.unread, s.listening, s.inbound⟩

/-- The session with that ear in place of its own. -/
def withEar (e : Ear) (s : Session) : Session :=
  { s with unread := e.unread, listening := e.listening, inbound := e.inbound }

@[simp] theorem withEar_ear (s : Session) : s.withEar s.ear = s := rfl

@[simp] theorem ear_withEar (e : Ear) (s : Session) : (s.withEar e).ear = e := rfl

variable (e : Ear)

/-! ## Requests -/

theorem onEntry_withEar (id : RequestId) (f : Mailbox → Mailbox) (s : Session) :
    (s.withEar e).onEntry id f = (s.onEntry id f).withEar e := by
  unfold onEntry
  rw [show (s.withEar e).table = s.table from rfl]
  split <;> rfl

theorem resolve_withEar (id : RequestId) (c : Closure) (s : Session) :
    (s.withEar e).resolve id c = (s.resolve id c).withEar e := by
  rw [resolve, onEntry_withEar]
  rfl

theorem resolveEach_withEar (causes : Keyed RequestId Closure) (s : Session) :
    (s.withEar e).resolveEach causes = (s.resolveEach causes).withEar e := by
  induction causes generalizing s with
  | nil => rfl
  | cons cause causes ih =>
    refine Eq.trans ?_ (ih (s.resolve cause.1 cause.2))
    rw [← resolve_withEar]
    rfl

theorem sweep_withEar (s : Session) : (s.withEar e).sweep = s.sweep.withEar e := by
  rw [sweep_eq, sweep_eq]
  exact resolveEach_withEar e _ s

theorem recv_withEar (id : RequestId) (s : Session) :
    (s.withEar e).recv id = ((s.recv id).1, (s.recv id).2.withEar e) := by
  cases held : s.ticket? id with
  | none =>
    have held' : (s.withEar e).ticket? id = none := held
    rw [recv_of_none held, recv_of_none held']
  | some t =>
    have held' : (s.withEar e).ticket? id = some t := held
    rw [recv_eq held, recv_eq held']
    refine Prod.ext rfl ?_
    rw [show (s.withEar e).now = s.now from rfl]
    dsimp only
    split
    · rfl
    · split <;> rfl

/-! ## The connection -/

theorem shutDown_withEar (reason : CloseReason) (s : Session) :
    (s.withEar e).shutDown reason = (s.shutDown reason).withEar e := by
  cases status : s.status.isClosed with
  | true =>
    have status' : (s.withEar e).status.isClosed = true := status
    rw [shutDown_of_closed status, shutDown_of_closed status']
  | false =>
    have status' : (s.withEar e).status.isClosed = false := status
    rw [shutDown_of_open status, shutDown_of_open status', failAll_eq, failAll_eq]
    exact resolveEach_withEar e _ { s with status := .closed reason }

theorem enqueue_withEar (line : String) (s : Session) :
    (s.withEar e).enqueue line = ((s.enqueue line).1, (s.enqueue line).2.withEar e) := by
  unfold enqueue
  rw [show (s.withEar e).writing = s.writing from rfl]
  split
  · rfl
  · rw [shutDown_withEar]
    rfl

theorem heartbeat_withEar (s : Session) :
    (s.withEar e).heartbeat = (s.heartbeat.1, s.heartbeat.2.withEar e) := by
  unfold heartbeat
  rw [show (s.withEar e).status = s.status from rfl]
  split
  · rfl
  · exact enqueue_withEar e _ s

theorem send_withEar (id : RequestId) (sessionId : Option String) (kind : Kind) (payload : Value)
    (s : Session) :
    (s.withEar e).send id sessionId kind payload =
      ((s.send id sessionId kind payload).1, (s.send id sessionId kind payload).2.withEar e) := by
  unfold send
  have registered : (s.withEar e).register id kind = (s.register id kind).withEar e := rfl
  rw [show (s.withEar e).status = s.status from rfl, registered]
  generalize s.register id kind = made
  dsimp only
  rw [show (made.withEar e).status = made.status from rfl, enqueue_withEar]
  split
  · rfl
  · split
    · rfl
    · generalize made.enqueue _ = queued
      obtain ⟨result, after⟩ := queued
      cases result <;> rfl

theorem stopInput_withEar (reason : CloseReason) (s : Session) :
    (s.withEar e).stopInput reason = (s.stopInput reason).withEar e := by
  unfold stopInput
  rw [show (s.withEar e).reading = s.reading from rfl]
  split
  · rw [shutDown_withEar]
    rfl
  · rfl

theorem failOutput_withEar (reason : CloseReason) (s : Session) :
    (s.withEar e).failOutput reason = (s.failOutput reason).withEar e := by
  unfold failOutput
  rw [show (s.withEar e).writing = s.writing from rfl,
    show (s.withEar e).outbox = s.outbox from rfl]
  split
  · rw [shutDown_withEar]
    rfl
  · rfl

theorem writeNext_withEar (s : Session) : (s.withEar e).writeNext = s.writeNext.withEar e := by
  unfold writeNext
  rw [show (s.withEar e).outbox = s.outbox from rfl,
    show (s.withEar e).writing = s.writing from rfl,
    show (s.withEar e).accepting = s.accepting from rfl]
  split
  · rfl
  · split
    · rfl
    · exact failOutput_withEar e _ s

/-! ## Every move -/

/-- A move that is not the reader's, nor that of who takes requests of the daemon. -/
def Move.isDeaf : Move → Bool
  | .byte _ | .tail | .dropInbound => false
  | _ => true

/-- Every other move does the same whatever the reader has heard. -/
theorem step_withEar (deaf : m.isDeaf = true) (s : Session) :
    (s.withEar e).step m = (s.step m).withEar e := by
  cases m with
  | send id sessionId kind payload =>
    exact congrArg Prod.snd (send_withEar e id sessionId kind payload s)
  | recv id =>
    rw [step_recv, step_recv, recv_withEar]
  | drop id => rfl
  | heartbeat => exact congrArg Prod.snd (heartbeat_withEar e s)
  | close => exact shutDown_withEar e .byPlugin s
  | byte | tail | dropInbound => cases deaf
  | endOfStream => exact stopInput_withEar e .endOfStream s
  | readError why => exact stopInput_withEar e (.readFailed why) s
  | write => exact writeNext_withEar e s
  | writeError why => exact failOutput_withEar e (.writeFailed why) s
  | flushError why => exact failOutput_withEar e (.flushFailed why) s
  | leaveInput =>
    change (s.withEar e).leaveInput = s.leaveInput.withEar e
    unfold leaveInput
    rw [show (s.withEar e).status = s.status from rfl]
    split <;> rfl
  | leaveOutput =>
    change (s.withEar e).leaveOutput = s.leaveOutput.withEar e
    unfold leaveOutput
    rw [show (s.withEar e).status = s.status from rfl]
    split <;> rfl
  | sweep => exact sweep_withEar e s
  | endOutput | timers | pass => rfl

/-- What does the same whatever the reader has heard leaves that alone. -/
theorem ear_of_withEar {f : Session → Session}
    (same : ∀ e s, f (withEar e s) = withEar e (f s)) (s : Session) : (f s).ear = s.ear := by
  have own := congrArg ear (same s.ear s)
  rw [withEar_ear, ear_withEar] at own
  exact own

theorem step_ear (deaf : m.isDeaf = true) (s : Session) : (s.step m).ear = s.ear :=
  @ear_of_withEar (step · m) (fun e s => step_withEar e deaf s) s

/-! ## The line that is being read -/

/-- The session with those bytes read of a line, last byte first. -/
def holding (held : Bytes) (s : Session) : Session := { s with unread := held }

variable {held : Bytes}

theorem holding_of_withEar {f : Session → Session}
    (same : ∀ e s, f (withEar e s) = withEar e (f s)) (s : Session) :
    f (s.holding held) = (f s).holding held := by
  have moved := same { s.ear with unread := held } s
  have ear := ear_of_withEar same s
  have target : (f s).holding held = (f s).withEar { (f s).ear with unread := held } := rfl
  rw [target, ear]
  exact moved

/-- No move but the reader's looks at the line that is being read. -/
theorem step_holding (other : m ≠ .tail) (others : ∀ b, m ≠ .byte b) (s : Session) :
    (s.holding held).step m = (s.step m).holding held := by
  cases deaf : m.isDeaf with
  | true => exact @holding_of_withEar held (step · m) (fun e s => step_withEar e deaf s) s
  | false =>
    cases m with
    | byte b => exact absurd rfl (others b)
    | tail => exact absurd rfl other
    | dropInbound => rfl
    | _ => cases deaf

/-- Nor does what the reader makes of a line before. -/
theorem heed_holding (n : Notice) (s : Session) :
    (s.holding held).heed n = (s.heed n).holding held := by
  cases n with
  | nothing => rfl
  | request f =>
    cases listens : s.listening <;> simp [heed, holding, listens]
  | malformed id how =>
    rw [heed, heed, fail_eq_resolve, fail_eq_resolve]
    exact holding_of_withEar (fun e s => resolve_withEar e id _ s) s
  | response r =>
    rw [heed, heed, route_snd, route_snd]
    split
    · exact holding_of_withEar (fun e s => onEntry_withEar e r.id _ s) s
    · exact holding_of_withEar (fun e s => resolve_withEar e r.id _ s) s
    · rfl

theorem heed_listening (n : Notice) (s : Session) : (s.heed n).listening = s.listening := by
  cases n with
  | nothing => rfl
  | request f =>
    cases listens : s.listening <;> simp [heed, listens]
  | malformed id how =>
    rw [heed, fail_eq_resolve]
    exact congrArg Ear.listening (ear_of_withEar (fun e s => resolve_withEar e id _ s) s)
  | response r =>
    rw [heed, route_snd]
    split
    · exact congrArg Ear.listening (ear_of_withEar (fun e s => onEntry_withEar e r.id _ s) s)
    · exact congrArg Ear.listening (ear_of_withEar (fun e s => resolve_withEar e r.id _ s) s)
    · rfl

end Session

end Backchannel
