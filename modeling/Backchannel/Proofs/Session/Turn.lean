/-
# Backchannel.Proofs.Session.Turn -- what a move means for one request

`turn` is what a move means for a request, and `Sound.step` says that each request takes
its turn with every move.  So the states of one request in a run are told by its turns
alone, and so is what the run tells of it: the items that come for it and what its
caller pulls (`Step.item?_eq`, `Step.pull?_eq`).
-/
import Backchannel.Session.Run
import Backchannel.Proofs.Session.Sound

namespace Backchannel

set_option autoImplicit false

open Backchannel.Json (Value)

namespace Turn

/-- The reply that a turn comes from. -/
def reply? : Turn → Option Reply
  | .item v => some (.item v)
  | .closed .finished => some .finish
  | .closed (.failed (.application message)) => some (.failed message)
  | _ => none

/-- The item that a turn puts into a ticket. -/
def item? : Turn → Option Ticket → Option Value
  | .item v, some t => if t.isOpen then some v else none
  | _, _ => none

/-- What a turn brings to the caller, if it is a pull. -/
def pull? (id : RequestId) : Turn → Option Ticket → Option (Pulled Value)
  | .pulled now, some t => some (t.pull id now).1
  | _, _ => none

theorem ofReply_reply? (r : Reply) : (ofReply r).reply? = some r := by
  cases r <;> rfl

end Turn

namespace Session

variable {s : Session} {id : RequestId}

/-! ## Moves -/

/-- Why a move closes a session that is open, if it does. -/
def Move.closeReason? (s : Session) : Move → Option CloseReason
  | .close => some .byPlugin
  | .endOfStream => if s.reading then some .endOfStream else none
  | .readError why => if s.reading then some (.readFailed why) else none
  | .write =>
    match s.outbox with
    | [] => none
    | line :: _ => if s.writing && !s.accepting then some (writeFailure line) else none
  | .writeError why => if s.writing && !s.outbox.isEmpty then some (.writeFailed why) else none
  | .flushError why => if s.writing && !s.outbox.isEmpty then some (.flushFailed why) else none
  | _ => none

/-- What a move means for a request. -/
def turn (m : Move) (s : Session) (id : RequestId) : Turn :=
  match m with
  | .send other _ kind _ =>
    if other = id then if s.status.isClosed then .idle else .opened (s.newTicket id kind) else .idle
  | .recv other => if other = id then .pulled s.now else .idle
  | .drop other => if other = id then .dropped else .idle
  | .sweep =>
    match (s.table.get? id).filter fun e => e.deadline ≤ s.now with
    | some e => .closed (expiry id e)
    | none => .idle
  | m =>
    match m.closeReason? s with
    | some reason => s.closing reason
    | none => .ofNotice id (heard m s)

theorem Sound.readByte (h : Sound s) (b : UInt8) :
    Turns s (s.readByte b) fun id => .ofNotice id (heard (.byte b) s) := by
  cases reading : s.reading with
  | false =>
    have same : s.readByte b = s := by simp [Session.readByte, reading]
    have quiet : heard (.byte b) s = .nothing := by simp [heard, reading]
    rw [same, quiet]
    exact .idle h
  | true =>
    by_cases ends : b = Text.lineFeed
    · have line : s.readByte b = { s with unread := [] }.heed (heard (.byte b) s) := by
        simp [Session.readByte, heard, reading, ends, readLine]
      rw [line]
      exact h.hear [] _
    · have more : s.readByte b = { s with unread := b :: s.unread } := by
        simp [Session.readByte, reading, ends]
      have quiet : heard (.byte b) s = .nothing := by simp [heard, ends]
      rw [more, quiet]
      exact h.outside rfl rfl rfl ⟨rfl, rfl, rfl, rfl⟩

theorem Sound.readTail (h : Sound s) :
    Turns s s.readTail fun id => .ofNotice id (heard .tail s) := by
  by_cases left : (s.reading && !s.unread.isEmpty) = true
  · have line : s.readTail = { s with unread := [] }.heed (heard .tail s) := by
      simp only [Session.readTail, heard, left, if_true, readLine]
    rw [line]
    exact h.hear [] _
  · have same : s.readTail = s := by
      simp only [Session.readTail, left, Bool.false_eq_true, if_false]
    have quiet : heard .tail s = .nothing := by
      simp only [heard, left, Bool.false_eq_true, if_false]
    rw [same, quiet]
    exact .idle h

theorem Sound.writeNext (h : Sound s) :
    Turns s s.writeNext fun _ =>
      match Move.closeReason? s .write with
      | some reason => s.closing reason
      | none => .idle := by
  cases outbox : s.outbox with
  | nil => simpa [Session.writeNext, outbox, Move.closeReason?] using Turns.idle h
  | cons line rest =>
    have fail := h.failOutput (writeFailure line)
    cases writing : s.writing with
    | false =>
      simpa [Session.writeNext, Session.failOutput, outbox, writing, Move.closeReason?] using
        Turns.idle h
    | true =>
      cases accepting : s.accepting with
      | false =>
        simpa [Session.writeNext, outbox, writing, accepting, Move.closeReason?] using fail
      | true =>
        simp only [Session.writeNext, outbox, writing, accepting, Move.closeReason?, Bool.and_self,
          if_true, Bool.not_true, Bool.and_false, Bool.false_eq_true, if_false]
        exact h.outside rfl rfl rfl ⟨rfl, rfl, by simp [writing], rfl⟩

theorem step_recv (s : Session) (id : RequestId) : s.step (.recv id) = (s.recv id).2 := by
  cases held : s.subscriptions.get? id with
  | some sub => simp [step, perform, held]
  | none => simp [step, perform, held, recv_of_none, ticket?]

/-- Every move keeps the session sound, and each request takes its turn. -/
theorem Sound.step (h : Sound s) (m : Move) : Turns s (s.step m) (turn m s) := by
  cases m with
  | send id sessionId kind payload => exact h.send id sessionId kind payload
  | recv id =>
    rw [step_recv]
    exact h.recv id
  | drop id => exact h.drop id
  | heartbeat => exact h.heartbeat
  | close => exact h.shutDown .byPlugin rfl rfl rfl rfl rfl
  | dropInbound => exact h.outside rfl rfl rfl ⟨rfl, rfl, rfl, rfl⟩
  | byte b => exact h.readByte b
  | tail => exact h.readTail
  | endOfStream => exact (h.stopInput .endOfStream).of_condition
  | readError why => exact (h.stopInput (.readFailed why)).of_condition
  | write => exact h.writeNext
  | writeError why => exact (h.failOutput (.writeFailed why)).of_condition
  | flushError why => exact (h.failOutput (.flushFailed why)).of_condition
  | leaveInput =>
    change Turns s s.leaveInput fun _ => .idle
    unfold Session.leaveInput
    split
    · exact h.outside rfl rfl rfl ⟨rfl, rfl, rfl, rfl⟩
    · exact .idle h
  | leaveOutput =>
    change Turns s s.leaveOutput fun _ => .idle
    unfold Session.leaveOutput
    split
    · rename_i closed
      refine ⟨⟨h.toRegistered.congr rfl rfl rfl, ?_, h.emptied⟩, rfl, fun _ => rfl⟩
      intro opened
      rw [closed] at opened
      cases opened
    · exact .idle h
  | sweep => exact h.sweep
  | endOutput => exact h.outside rfl rfl rfl ⟨rfl, rfl, rfl, rfl⟩
  | timers sweepAt beatAt => exact h.outside rfl rfl rfl ⟨rfl, rfl, rfl, rfl⟩
  | pass span =>
    exact ⟨⟨h.toRegistered.congr rfl rfl rfl, h.writing, h.emptied⟩, rfl, fun _ => rfl⟩

theorem Sound.run (h : Sound s) (ms : List Move) : Sound (run ms s) := by
  induction ms generalizing s with
  | nil => exact h
  | cons m ms ih => exact ih (h.step m).toSound

theorem Sound.run_settings (h : Sound s) (ms : List Move) :
    (Session.run ms s).settings = s.settings := by
  induction ms generalizing s with
  | nil => rfl
  | cons m ms ih => exact (ih (h.step m).toSound).trans (h.step m).settings

theorem sound_run (settings : Settings) (ms : List Move) : Sound (run ms (start settings)) :=
  (sound_start settings).run ms

/-! ## What turns there are -/

/-- What a move can mean for a request. -/
inductive Means (s : Session) (id : RequestId) : Move → Turn → Prop where
  | idle {m : Move} (quiet : heard m s = .nothing) (other : m ≠ .recv id) : Means s id m .idle
  | opened (sessionId : Option String) (kind : Kind) (payload : Value)
    (isOpen : s.status.isClosed = false) :
    Means s id (.send id sessionId kind payload) (.opened (s.newTicket id kind))
  | pulled : Means s id (.recv id) (.pulled s.now)
  | dropped : Means s id (.drop id) .dropped
  | expired {e : Entry} (found : s.table.get? id = some e) (late : e.deadline ≤ s.now) :
    Means s id .sweep (.closed (expiry id e))
  | closed {m : Move} {reason : CloseReason} (isOpen : s.status.isClosed = false)
    (why : m.closeReason? s = some reason) (quiet : heard m s = .nothing) :
    Means s id m (.closed (.failed (.connectionClosed reason)))
  | noticed {m : Move} (other : m ≠ .recv id) : Means s id m (.ofNotice id (heard m s))

theorem closing_means {m : Move} (quiet : heard m s = .nothing) (other : m ≠ .recv id) :
    Means s id m (match m.closeReason? s with
      | some reason => s.closing reason
      | none => .idle) := by
  cases why : m.closeReason? s with
  | none => exact .idle quiet other
  | some reason =>
    simp only [closing]
    cases status : s.status.isClosed with
    | true => exact .idle quiet other
    | false => exact .closed status why quiet

theorem turn_means (m : Move) (s : Session) (id : RequestId) : Means s id m (turn m s id) := by
  cases m with
  | send other sessionId kind payload =>
    simp only [turn]
    split
    · rename_i own
      subst own
      cases status : s.status.isClosed with
      | true => exact .idle rfl Move.noConfusion
      | false => exact .opened sessionId kind payload status
    · exact .idle rfl Move.noConfusion
  | recv caller =>
    simp only [turn]
    split
    · rename_i own
      exact own ▸ .pulled
    · rename_i apart
      exact .idle rfl fun same => apart (Move.recv.inj same)
  | drop other =>
    simp only [turn]
    split
    · rename_i own
      exact own ▸ .dropped
    · exact .idle rfl Move.noConfusion
  | sweep =>
    simp only [turn]
    split
    · rename_i e due
      obtain ⟨found, late⟩ := Option.filter_eq_some_iff.mp due
      exact .expired found (of_decide_eq_true late)
    · exact .idle rfl Move.noConfusion
  | byte b => exact .noticed (m := .byte b) Move.noConfusion
  | tail => exact .noticed (m := .tail) Move.noConfusion
  | close => exact closing_means (m := .close) rfl Move.noConfusion
  | endOfStream => exact closing_means (m := .endOfStream) rfl Move.noConfusion
  | readError why => exact closing_means (m := .readError why) rfl Move.noConfusion
  | write => exact closing_means (m := .write) rfl Move.noConfusion
  | writeError why => exact closing_means (m := .writeError why) rfl Move.noConfusion
  | flushError why => exact closing_means (m := .flushError why) rfl Move.noConfusion
  | heartbeat | dropInbound | leaveInput | leaveOutput | endOutput | timers _ _ | pass _ =>
    exact .idle rfl Move.noConfusion

/-- What a notice can mean for a request. -/
theorem ofNotice_cases (id : RequestId) (n : Notice) :
    Turn.ofNotice id n = .idle ∨ (∃ v, Turn.ofNotice id n = .item v) ∨
      Turn.ofNotice id n = .closed .finished ∨
      (∃ message, Turn.ofNotice id n = .closed (.failed (.application message))) ∨
      ∃ violation, Turn.ofNotice id n = .closed (.failed (.protocol violation)) := by
  cases n with
  | nothing => exact .inl rfl
  | request f => exact .inl rfl
  | response r =>
    simp only [Turn.ofNotice]
    split
    · cases r.reply with
      | item v => exact .inr (.inl ⟨v, rfl⟩)
      | finish => exact .inr (.inr (.inl rfl))
      | failed message => exact .inr (.inr (.inr (.inl ⟨message, rfl⟩)))
    · exact .inl rfl
  | malformed other how =>
    simp only [Turn.ofNotice]
    split
    · exact .inr (.inr (.inr (.inr ⟨_, rfl⟩)))
    · exact .inl rfl

/-- Who is not the caller of a request adds an item to it or resolves it, if he does anything
to it at all. -/
theorem turn_of_other {m : Move} (other : m.caller? ≠ some id) :
    turn m s id = .idle ∨ (∃ v, turn m s id = .item v) ∨ ∃ c, turn m s id = .closed c := by
  have means := turn_means m s id
  generalize turn m s id = turn at means ⊢
  cases means with
  | opened | pulled | dropped => exact absurd rfl other
  | idle => exact .inl rfl
  | expired | closed => exact .inr (.inr ⟨_, rfl⟩)
  | noticed =>
    rcases ofNotice_cases id (heard m s) with same | ⟨v, same⟩ | same | ⟨message, same⟩ |
      ⟨violation, same⟩ <;> rw [same]
    · exact .inl rfl
    · exact .inr (.inl ⟨v, rfl⟩)
    · exact .inr (.inr ⟨_, rfl⟩)
    · exact .inr (.inr ⟨_, rfl⟩)
    · exact .inr (.inr ⟨_, rfl⟩)

/-- The subscription of a request is only its caller's to change. -/
theorem Sound.step_sub (h : Sound s) {m : Move} (other : m.caller? ≠ some id) {t : Ticket}
    (held : s.ticket? id = some t) :
    ∃ t', (s.step m).ticket? id = some t' ∧ t'.sub = t.sub := by
  rw [(h.step m).ticket, held]
  rcases turn_of_other other with same | ⟨v, same⟩ | ⟨c, same⟩ <;> rw [same]
  · exact ⟨t, rfl, rfl⟩
  · exact ⟨t.put v, rfl, t.put_sub v⟩
  · exact ⟨t.close c, rfl, t.close_sub c⟩

/-! ## What a step tells -/

theorem ofNotice_reply? (id : RequestId) (n : Notice) :
    (Turn.ofNotice id n).reply? =
      match n with
      | .response r => if r.id = id then some r.reply else none
      | _ => none := by
  cases n with
  | nothing => rfl
  | request f => rfl
  | response r =>
    by_cases same : r.id = id
    · simp only [Turn.ofNotice, same, if_true, Turn.ofReply_reply?]
    · simp [Turn.ofNotice, same, Turn.reply?]
  | malformed other how => by_cases same : other = id <;> simp [Turn.ofNotice, same, Turn.reply?]

/-- Only who makes a request has a new ticket, and only while the session is open. -/
theorem turn_opened {m : Move} {t : Ticket} (h : turn m s id = .opened t) :
    s.status.isClosed = false ∧
      ∃ sessionId kind payload, m = .send id sessionId kind payload ∧ t = s.newTicket id kind := by
  have means := turn_means m s id
  rw [h] at means
  generalize opened : Turn.opened t = turn at means
  cases means with
  | opened sessionId kind payload isOpen =>
    cases opened
    exact ⟨isOpen, sessionId, kind, payload, rfl, rfl⟩
  | noticed =>
    rcases ofNotice_cases id (heard m s) with same | ⟨v, same⟩ | same | ⟨message, same⟩ |
      ⟨violation, same⟩ <;> simp [same] at opened
  | _ => cases opened

/-- All the ways in which a request is resolved. -/
theorem turn_closed {m : Move} {c : Closure} (h : turn m s id = .closed c) :
    c = .finished ∨ (∃ message, c = .failed (.application message)) ∨
      (∃ violation, c = .failed (.protocol violation)) ∨
      (∃ e, s.table.get? id = some e ∧ e.deadline ≤ s.now ∧ c = expiry id e) ∨
      ∃ reason, m.closeReason? s = some reason ∧ c = .failed (.connectionClosed reason) := by
  have means := turn_means m s id
  rw [h] at means
  generalize closed : Turn.closed c = turn at means
  cases means with
  | @expired e found late =>
    cases closed
    exact .inr (.inr (.inr (.inl ⟨e, found, late, rfl⟩)))
  | @closed _ reason isOpen why =>
    cases closed
    exact .inr (.inr (.inr (.inr ⟨reason, why, rfl⟩)))
  | noticed =>
    rcases ofNotice_cases id (heard m s) with same | ⟨v, same⟩ | same | ⟨message, same⟩ |
      ⟨violation, same⟩
    · simp [same] at closed
    · simp [same] at closed
    · exact .inl (Turn.closed.inj (closed.trans same))
    · exact .inr (.inl ⟨message, Turn.closed.inj (closed.trans same)⟩)
    · exact .inr (.inr (.inl ⟨violation, Turn.closed.inj (closed.trans same)⟩))
  | _ => cases closed

/-- Only a mailbox itself says that its caller fell behind. -/
theorem turn_ne_lagged (m : Move) (s : Session) (id other : RequestId) (skipped : Nat) :
    turn m s id ≠ .closed (.failed (.lagged other skipped)) := by
  intro h
  rcases turn_closed h with same | ⟨_, same⟩ | ⟨_, same⟩ | ⟨_, -, -, same⟩ | ⟨_, -, same⟩ <;>
    cases same

/-- A request is told of a close only by the move that closes the session. -/
theorem turn_connectionClosed {m : Move} {reason : CloseReason}
    (h : turn m s id = .closed (.failed (.connectionClosed reason))) :
    m.closeReason? s = some reason := by
  rcases turn_closed h with same | ⟨_, same⟩ | ⟨_, same⟩ | ⟨_, -, -, same⟩ | ⟨_, why, same⟩ <;>
    cases same
  exact why

/-- The move that closes the session tells every request. -/
theorem turn_of_closeReason {m : Move} {reason : CloseReason} (opened : s.status.isClosed = false)
    (why : m.closeReason? s = some reason) (id : RequestId) :
    turn m s id = .closed (.failed (.connectionClosed reason)) := by
  have closing : s.closing reason = .closed (.failed (.connectionClosed reason)) := by
    simp [Session.closing, opened]
  cases m with
  | close | endOfStream | readError | write | writeError | flushError =>
    simp only [turn, why, closing]
  | _ => cases why

/-- Replies are what the reader takes. -/
theorem turn_reply? (m : Move) (s : Session) (id : RequestId) :
    (turn m s id).reply? =
      match heard m s with
      | .response r => if r.id = id then some r.reply else none
      | _ => none := by
  have means := turn_means m s id
  generalize turn m s id = turn at means ⊢
  cases means with
  | idle quiet => rw [quiet]; rfl
  | closed isOpen why quiet => rw [quiet]; rfl
  | noticed => exact ofNotice_reply? id (heard m s)
  | opened | pulled | dropped | expired => rfl

/-- Only the caller pulls. -/
theorem turn_pull?_of_other {m : Move} (other : m ≠ .recv id) (ticket : Option Ticket) :
    (turn m s id).pull? id ticket = none := by
  have means := turn_means m s id
  generalize turn m s id = turn at means ⊢
  cases means with
  | pulled => exact absurd rfl other
  | noticed =>
    rcases ofNotice_cases id (heard m s) with same | ⟨v, same⟩ | same | ⟨message, same⟩ |
      ⟨violation, same⟩ <;> rw [same] <;> rfl
  | idle | opened | dropped | expired | closed => rfl

/-- A reply is routed to a request by its turn. -/
theorem Step.reply?_eq (id : RequestId) (m : Move) (s : Session) :
    Step.reply? id ⟨s, m⟩ = if s.isOutstanding id then (turn m s id).reply? else none := by
  rw [turn_reply?, Step.reply?]
  cases heard m s with
  | response r =>
    by_cases same : r.id = id <;> by_cases waits : s.isOutstanding id = true <;> simp [same, waits]
  | nothing => simp
  | request f => simp
  | malformed other how => simp

theorem item?_of_isOpen {turn : Turn} {t : Ticket} (isOpen : t.isOpen = true) :
    turn.item? (some t) = turn.reply?.bind itemOf? := by
  cases turn with
  | item v => simp [Turn.item?, Turn.reply?, itemOf?, isOpen]
  | closed c => cases c with
    | finished => rfl
    | failed e => cases e <;> rfl
  | _ => rfl

theorem item?_of_not_open {turn : Turn} {t : Ticket} (h : t.isOpen = false) :
    turn.item? (some t) = none := by
  cases turn <;> simp [Turn.item?, h]

/-- What comes for a request goes into its ticket. -/
theorem Sound.item?_eq (h : Sound s) (id : RequestId) (m : Move) :
    Step.item? id ⟨s, m⟩ = (turn m s id).item? (s.ticket? id) := by
  rw [Step.item?, Step.reply?_eq]
  by_cases waits : s.isOutstanding id = true
  · obtain ⟨t, held, isOpen⟩ := h.isOutstanding_iff.mp waits
    rw [if_pos waits, held, item?_of_isOpen isOpen]
  · rw [if_neg waits]
    cases held : s.ticket? id with
    | none => cases turn m s id <;> rfl
    | some t => exact (item?_of_not_open (h.not_open held (Bool.eq_false_iff.mpr waits))).symm

/-- An item that comes for a request finds its mailbox open. -/
theorem Sound.accepted?_eq (h : Sound s) (id : RequestId) (m : Move) :
    Step.accepted? id ⟨s, m⟩ = Step.item? id ⟨s, m⟩ := by
  cases item : Step.item? id ⟨s, m⟩ with
  | none => simp [Step.accepted?, item]
  | some v =>
    cases found : s.table.get? id with
    | none => simp [Step.item?, Step.reply?_eq, isOutstanding, Keyed.contains, found] at item
    | some e =>
      obtain ⟨t, held, isOpen, mailbox, -, -⟩ := h.entry found
      have stored := (ticket?_eq_some.mp held).2
      have opened := (Ticket.isOpen_iff.mp isOpen).2
      simp [Step.accepted?, item, found, mailbox, stored, opened]

theorem pull?_recv (id : RequestId) (s : Session) :
    Step.pull? id ⟨s, .recv id⟩ =
      if (s.subscriptions.get? id).isSome then some (s.recv id).1 else none := by
  by_cases held : (s.subscriptions.get? id).isSome = true <;>
    simp [Step.pull?, Step.answer, perform, held]

theorem pull?_of_other {m : Move} (other : m ≠ .recv id) : Step.pull? id ⟨s, m⟩ = none := by
  cases m with
  | recv caller =>
    have apart : caller ≠ id := by
      rintro rfl
      exact other rfl
    by_cases held : (s.subscriptions.get? caller).isSome = true <;>
      simp [Step.pull?, Step.answer, perform, held, apart]
  | _ => rfl

/-- A caller pulls from its ticket. -/
theorem Sound.pull?_eq (h : Sound s) (id : RequestId) (m : Move) :
    Step.pull? id ⟨s, m⟩ = (turn m s id).pull? id (s.ticket? id) := by
  by_cases own : m = .recv id
  · subst own
    rw [pull?_recv, ← h.ticket?_isSome]
    have pulled : turn (.recv id) s id = .pulled s.now := by simp [turn]
    rw [pulled]
    cases held : s.ticket? id with
    | none => rfl
    | some t => simp [Turn.pull?, recv_eq held]
  · rw [pull?_of_other own]
    exact (turn_pull?_of_other own (s.ticket? id)).symm

end Session

end Backchannel
