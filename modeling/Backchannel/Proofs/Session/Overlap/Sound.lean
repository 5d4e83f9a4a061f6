/-
# Backchannel.Proofs.Session.Overlap.Sound -- what holds whoever moves next

Between two steps of a close a caller may have lost its entry and not yet been told.  That
is the only moment at which the session is not registered, and no one else can tell it from
the next: `Overlap.settled` is the session as if the caller had been told, and whatever
another caller does has the same effect on both (`Sender.advance_onMailbox`).

The invariant is `Overlap.Sound`.  Its heart is `owed`: once the close has begun to collect,
every entry is one that it will come to, or one whose caller has yet to look whether the
session is open, or has looked and is about to let go.
-/
import Backchannel.Proofs.Session.Overlap.Steps

namespace Backchannel

set_option autoImplicit false

open Session (Registered)

variable {s : Session} {o : Overlap} {id : RequestId} {w : Sender}

/-! ## The close told at once -/

theorem modify_append {α : Type} {l : List α} {i : Nat} (inside : i < l.length) (f : α → α)
    (m : List α) : (l ++ m).modify i f = l.modify i f ++ m := by
  induction l generalizing i with
  | nil => cases inside
  | cons a l ih =>
    cases i with
    | zero => rfl
    | succ i => simpa using ih (Nat.lt_of_succ_lt_succ inside)

theorem register_onMailbox {ref : MailboxRef} (bound : ref < s.mailboxes.length) (id : RequestId)
    (kind : Kind) (f : Mailbox → Mailbox) :
    (s.onMailbox ref f).register id kind = (s.register id kind).onMailbox ref f := by
  simp [Session.register, Session.onMailbox, modify_append bound]

/-- What is told to one caller is of no matter to another that sends. -/
theorem Sender.advance_onMailbox (w : Sender) (id : RequestId) (works : s.Works)
    {ref : MailboxRef} (bound : ref < s.mailboxes.length) (f : Mailbox → Mailbox) :
    w.advance id (s.onMailbox ref f) =
      ((w.advance id s).1, (w.advance id s).2.onMailbox ref f) := by
  unfold advance
  split
  · rfl
  · exact congrArg (Prod.mk _) (register_onMailbox bound id _ f)
  · rfl
  · by_cases writes : s.writing = true
    · have writes' : (s.onMailbox ref f).writing = true := writes
      rw [Session.enqueue_of_writing writes, Session.enqueue_of_writing writes']
      rfl
    · have stopped := Bool.eq_false_iff.mpr writes
      have stopped' : (s.onMailbox ref f).writing = false := stopped
      rw [Session.enqueue_of_stopped stopped (works.closed stopped),
        Session.enqueue_of_stopped stopped' (works.closed stopped)]
      rfl
  · rfl
  · rfl

/-- The session once the caller is told whose entry was taken. -/
def Overlap.settled (o : Overlap) : Session :=
  match o.closer with
  | .telling ref _ => o.session.onMailbox ref (.close (.failed (.connectionClosed o.reason)))
  | _ => o.session

/-! ## The invariant -/

namespace Stage

/-- The caller has its subscription. -/
def holds : Stage → Bool
  | .registered | .confirmed | .refused _ | .returned (.ok ()) => true
  | .starting | .admitted | .returned (.error _) => false

/-- The caller may have come too late for the close to find its entry. -/
def late : Stage → Bool
  | .registered | .refused _ => true
  | _ => false

/-- What the caller is told who is refused. -/
def error? : Stage → Option CallError
  | .refused e | .returned (.error e) => some e
  | _ => none

end Stage

/-- The status of the session, as far as the close is. -/
def Closer.status (reason : CloseReason) : Closer → Status
  | .waiting => .opened
  | _ => .closed reason

/-- The ids that a close goes through, as far as it knows them and has not done so. -/
def Closer.owes? : Closer → Option (List RequestId)
  | .waiting | .announced => none
  | .collecting owed _ => some owed
  | .failing left | .telling _ left => some left
  | .finished => some []

/-- The caller of a request has not heard of anything but the close. -/
def Session.Awaits (reason : CloseReason) (s : Session) (id : RequestId) : Prop :=
  ∃ t, s.ticket? id = some t ∧ t.sub.done = false ∧
    (t.box.closure = none ∨ t.box.closure = some (.failed (.connectionClosed reason)))

/-- Who is told of the close has heard of nothing else. -/
theorem Session.Registered.awaits_resolve {reason : CloseReason} (h : Registered s)
    (id : RequestId) {other : RequestId} (waits : s.Awaits reason other) :
    (s.resolve id (.failed (.connectionClosed reason))).Awaits reason other := by
  obtain ⟨t, held, done, closure⟩ := waits
  by_cases same : id = other
  · subst same
    refine ⟨t.close (.failed (.connectionClosed reason)), ?_, by simpa using done, ?_⟩
    · rw [h.resolve_ticket?, if_pos rfl, held]
      rfl
    · rcases closure with opened | closed
      · right
        simp [Ticket.close, Ticket.isOpen, done, opened]
      · right
        rwa [Ticket.close_of_not_open (by simp [Ticket.isOpen, closed])]
  · refine ⟨t, ?_, done, closure⟩
    rw [h.resolve_ticket?, if_neg same, held]

namespace Overlap

@[simp] theorem settled_status (o : Overlap) : o.settled.status = o.session.status := by
  unfold settled
  split <;> rfl

@[simp] theorem settled_writing (o : Overlap) : o.settled.writing = o.session.writing := by
  unfold settled
  split <;> rfl

@[simp] theorem settled_size (o : Overlap) :
    o.settled.mailboxes.length = o.session.mailboxes.length := by
  unfold settled
  split <;> simp

@[simp] theorem settled_table (o : Overlap) : o.settled.table = o.session.table := by
  unfold settled
  split <;> rfl

theorem settled_eq (quiet : ∀ ref left, o.closer ≠ .telling ref left) :
    o.settled = o.session := by
  cases closer : o.closer with
  | telling ref left => exact absurd closer (quiet ref left)
  | _ => simp [Overlap.settled, closer]

/-- What holds whoever moves next.  `s` is the session at the beginning. -/
structure Sound (s : Session) (o : Overlap) : Prop where
  registered : Registered o.settled
  works : o.settled.Works
  status : o.settled.status = o.closer.status o.reason
  bound : ∀ ref left, o.closer = .telling ref left → ref < o.settled.mailboxes.length
  outside : ∀ id stage, o.stage? id = some stage → stage.holds = false → o.settled.ref? id = none
  inside : ∀ id stage, o.stage? id = some stage → stage.holds = true → o.settled.Awaits o.reason id
  before : ∀ id, s.isOutstanding id = true → o.stage? id = none ∧ o.settled.Awaits o.reason id
  told : ∀ id stage e, o.stage? id = some stage → stage.error? = some e →
    e = .connectionClosed o.reason
  /-- An entry that the close will not find is one whose caller will find the close. -/
  owed : ∀ ids, o.closer.owes? = some ids → ∀ id, o.settled.isOutstanding id = true →
    id ∈ ids ∨ ∃ stage, o.stage? id = some stage ∧ stage.late = true

/-! ## A caller moves -/

/-- A change that concerns one request alone. -/
structure Own (id : RequestId) (s s' : Session) : Prop where
  registered : Registered s'
  status : s'.status = s.status
  writing : s'.writing = s.writing
  size : s.mailboxes.length ≤ s'.mailboxes.length
  table : ∀ other, id ≠ other → s'.table.get? other = s.table.get? other
  ref : ∀ other, id ≠ other → s'.ref? other = s.ref? other
  ticket : ∀ other, id ≠ other → s'.ticket? other = s.ticket? other

theorem Own.refl (h : Registered s) : Own id s s :=
  ⟨h, rfl, rfl, Nat.le_refl _, fun _ _ => rfl, fun _ _ => rfl, fun _ _ => rfl⟩

theorem Own.of_advances {stage : Stage} {s' : Session}
    (h : w.Advances id s stage s') (registered : Registered s) : Own id s s' := by
  cases h with
  | admits | sendsAway | confirms | refuses | stops | rests => exact .refl registered
  | enqueues =>
    exact ⟨registered.congr rfl rfl rfl, rfl, rfl, Nat.le_refl _, fun _ _ => rfl, fun _ _ => rfl,
      fun _ _ => rfl⟩
  | registers =>
    refine ⟨registered.register id _, rfl, rfl, by simp [Session.register], fun other ne => ?_,
      fun other ne => ?_, fun other ne => ?_⟩
    · simp [Session.register, Keyed.get?_insert, ne]
    · simp [Session.register_ref?, ne]
    · simp [registered.register_ticket?, ne]
  | letsGo =>
    refine ⟨registered.drop id, rfl, rfl, Nat.le_refl _, fun other ne => ?_, fun other ne => ?_,
      fun other ne => ?_⟩
    · simp [Session.drop, Session.removeEntry, Keyed.get?_erase, ne]
    · simp [Session.ref?, Session.drop, Keyed.get?_erase, ne]
    · simp [Session.drop_ticket?, ne]

/-- A caller moves as if the close had told whom it is about to tell. -/
theorem Sound.sent_settled (h : Sound s o) (w : Sender) (id : RequestId) :
    (w.advance id o.session).1 = (w.advance id o.settled).1 ∧
      (o.sent id (w.advance id o.session).1 (w.advance id o.session).2).settled =
        (w.advance id o.settled).2 := by
  have works := h.works
  have bound := h.bound
  simp only [settled_size] at bound
  cases closer : o.closer with
  | telling ref left =>
    have settled : o.settled =
        o.session.onMailbox ref (.close (.failed (.connectionClosed o.reason))) := by
      simp [Overlap.settled, closer]
    have works : o.session.Works := by simpa [Session.Works] using works
    rw [settled, w.advance_onMailbox id works (bound ref left closer)]
    simp [Overlap.settled, sent, closer]
  | _ =>
    have settled : o.settled = o.session := by simp [Overlap.settled, closer]
    rw [settled]
    simp [Overlap.settled, sent, closer]

theorem not_outstanding (registered : Registered s) (none : s.ref? id = none) :
    s.isOutstanding id = false := by
  rw [← Bool.not_eq_true, registered.isOutstanding_iff]
  rintro ⟨t, held, -⟩
  rw [Session.ref?_of_ticket? held] at none
  cases none

theorem Sound.waiting (h : Sound s o) (opened : o.settled.status.isClosed = false) :
    o.closer = .waiting := by
  have status := h.status
  cases closer : o.closer <;> simp_all [Status.isClosed, Closer.status]

theorem Sound.refusal (h : Sound s o) (closed : o.settled.status.isClosed = true) :
    o.settled.refusal = .connectionClosed o.reason := by
  have status := h.status
  cases closer : o.closer <;> simp_all [Status.isClosed, Closer.status, Session.refusal]

/-- What a step of its caller makes of a request. -/
theorem Sound.own (h : Sound s o) (found : o.senders.get? id = some w) {stage : Stage}
    {s' : Session} (step : w.Advances id o.settled stage s') :
    (stage.holds = false → s'.ref? id = none) ∧
      (stage.holds = true → s'.Awaits o.reason id) ∧
      (∀ e, stage.error? = some e → e = .connectionClosed o.reason) ∧
      ∀ ids, o.closer.owes? = some ids → s'.isOutstanding id = true →
        id ∈ ids ∨ stage.late = true := by
  have current : o.stage? id = some w.stage := by simp [stage?, found]
  have outside := h.outside id w.stage current
  have inside := h.inside id w.stage current
  have told := fun e => h.told id w.stage e current
  have owed (ids : List RequestId) (owes : o.closer.owes? = some ids)
      (waits : o.settled.isOutstanding id = true) : id ∈ ids ∨ w.stage.late = true := by
    rcases h.owed ids owes id waits with listed | ⟨stage, same, late⟩
    · exact .inl listed
    · rw [current] at same
      cases same
      exact .inr late
  have silent {stage : Stage} (none : stage.error? = none) (e : CallError)
      (same : stage.error? = some e) : e = .connectionClosed o.reason := by
    rw [none] at same
    cases same
  cases step with
  | admits stage opened =>
    rw [stage] at outside owed
    exact ⟨outside, (fun holds => by cases holds), silent rfl, owed⟩
  | sendsAway stage closed =>
    rw [stage] at outside owed
    refine ⟨outside, (fun holds => by cases holds), fun e same => ?_, owed⟩
    cases same
    exact h.refusal closed
  | registers stage =>
    refine ⟨(fun holds => by cases holds), fun _ => ?_, silent rfl, fun _ _ _ => .inr rfl⟩
    refine ⟨o.settled.newTicket id w.wanted.kind, ?_, rfl, .inl rfl⟩
    rw [h.registered.register_ticket?, if_pos rfl]
  | confirms stage opened =>
    rw [stage] at inside
    refine ⟨(fun holds => by cases holds), inside, silent rfl, fun ids owes => ?_⟩
    rw [h.waiting opened] at owes
    cases owes
  | refuses stage closed =>
    rw [stage] at inside
    refine ⟨(fun holds => by cases holds), inside, fun e same => ?_, fun _ _ _ => .inr rfl⟩
    cases same
    exact h.refusal closed
  | enqueues stage writing =>
    rw [stage] at inside owed
    exact ⟨(fun holds => by cases holds), inside, silent rfl, owed⟩
  | stops stage closed =>
    rw [stage] at inside
    refine ⟨(fun holds => by cases holds), inside, fun e same => ?_, fun _ _ _ => .inr rfl⟩
    cases same
    exact h.refusal closed
  | @letsGo e stage =>
    rw [stage] at told
    have gone : (o.settled.drop id).ref? id = none := by simp [Session.ref?, Session.drop]
    refine ⟨fun _ => gone, (fun holds => by cases holds), told, fun ids _ waits => ?_⟩
    rw [not_outstanding (h.registered.drop id) gone] at waits
    cases waits
  | rests stage =>
    rw [stage] at outside inside owed told
    exact ⟨outside, inside, told, owed⟩

theorem Sound.send (h : Sound s o) (id : RequestId) : Sound s (o.step (.send id)) := by
  cases found : o.senders.get? id with
  | none =>
    have same : o.step (.send id) = o := by simp [step, found]
    rwa [same]
  | some w =>
    obtain ⟨stage, settled⟩ := h.sent_settled w id
    have step := w.advances id h.works
    rw [step_send found]
    rw [← stage, ← settled] at step
    have stages := sent_stage? found (w.advance id o.session).1 (w.advance id o.session).2
    have closer : (o.sent id (w.advance id o.session).1 (w.advance id o.session).2).closer =
      o.closer := rfl
    have reason : (o.sent id (w.advance id o.session).1 (w.advance id o.session).2).reason =
      o.reason := rfl
    generalize o.sent id (w.advance id o.session).1 (w.advance id o.session).2 = next at *
    generalize (w.advance id o.session).1 = last at *
    have own := Own.of_advances step h.registered
    obtain ⟨outside, inside, told, owed⟩ := h.own found step
    have awaits (other : RequestId) (ne : id ≠ other)
        (waits : o.settled.Awaits o.reason other) : next.settled.Awaits next.reason other := by
      obtain ⟨t, held, waits⟩ := waits
      exact ⟨t, (own.ticket other ne).trans held, reason ▸ waits⟩
    refine ⟨own.registered, ?_, ?_, ?_, ?_, ?_, ?_, ?_, ?_⟩
    · simpa only [Session.Works, own.status, own.writing] using h.works
    · rw [own.status, closer, reason]
      exact h.status
    · intro ref left telling
      exact Nat.lt_of_lt_of_le (h.bound ref left (closer ▸ telling)) own.size
    · intro other stage at_ holds
      rw [stages] at at_
      split at at_
      · rename_i same
        cases at_
        exact same ▸ outside holds
      · rename_i ne
        exact (own.ref other ne).trans (h.outside other stage at_ holds)
    · intro other stage at_ holds
      rw [stages] at at_
      split at at_
      · rename_i same
        cases at_
        exact same ▸ reason ▸ inside holds
      · rename_i ne
        exact awaits other ne (h.inside other stage at_ holds)
    · intro other waits
      obtain ⟨none, waits⟩ := h.before other waits
      have ne : id ≠ other := by
        rintro rfl
        simp [stage?, found] at none
      exact ⟨by rw [stages, if_neg ne, none], awaits other ne waits⟩
    · intro other stage e at_ error
      rw [stages] at at_
      split at at_
      · cases at_
        exact reason ▸ told e error
      · exact reason ▸ h.told other stage e at_ error
    · intro ids owes other waits
      rw [closer] at owes
      rw [stages]
      split
      · rename_i same
        subst same
        rcases owed ids owes waits with listed | late
        · exact .inl listed
        · exact .inr ⟨last, rfl, late⟩
      · rename_i ne
        refine h.owed ids owes other ?_
        simpa only [Session.isOutstanding, Keyed.contains, own.table other ne] using waits

/-! ## The close moves -/

/-- A change that leaves every caller where it is. -/
theorem Sound.of_close {o' : Overlap} (h : Sound s o) (senders : o'.senders = o.senders)
    (reason : o'.reason = o.reason) (registered : Registered o'.settled) (works : o'.settled.Works)
    (status : o'.settled.status = o'.closer.status o.reason)
    (bound : ∀ ref left, o'.closer = .telling ref left → ref < o'.settled.mailboxes.length)
    (refs : ∀ id, o'.settled.ref? id = o.settled.ref? id)
    (awaits : ∀ id, o.settled.Awaits o.reason id → o'.settled.Awaits o.reason id)
    (owed : ∀ ids, o'.closer.owes? = some ids → ∀ id, o'.settled.isOutstanding id = true →
      id ∈ ids ∨ ∃ stage, o.stage? id = some stage ∧ stage.late = true) : Sound s o' where
  registered := registered
  works := works
  status := by rw [reason, status]
  bound := bound
  outside := by
    intro id stage at_ holds
    rw [refs]
    exact h.outside id stage (by rwa [stage?, ← senders]) holds
  inside := by
    intro id stage at_ holds
    rw [reason]
    exact awaits id (h.inside id stage (by rwa [stage?, ← senders]) holds)
  before := by
    intro id waits
    obtain ⟨none, waits⟩ := h.before id waits
    exact ⟨by rwa [stage?, senders], reason ▸ awaits id waits⟩
  told := by
    intro id stage e at_
    rw [reason]
    exact h.told id stage e (by rwa [stage?, ← senders])
  owed := by
    simpa only [stage?, senders] using owed

/-- The close goes on, and does nothing to the session. -/
theorem Sound.of_same {o' : Overlap} (h : Sound s o) (senders : o'.senders = o.senders)
    (reason : o'.reason = o.reason) (settled : o'.settled = o.settled)
    (status : o'.closer.status o.reason = o.closer.status o.reason)
    (quiet : ∀ ref left, o'.closer ≠ .telling ref left)
    (owed : ∀ ids, o'.closer.owes? = some ids → ∀ id, o.settled.isOutstanding id = true →
      id ∈ ids ∨ ∃ stage, o.stage? id = some stage ∧ stage.late = true) : Sound s o' := by
  refine h.of_close senders reason (settled ▸ h.registered) (settled ▸ h.works) ?_
    (fun ref left telling => absurd telling (quiet ref left)) (fun _ => by rw [settled])
    (fun _ waits => settled ▸ waits) (settled ▸ owed)
  rw [settled, status, h.status]

/-- The status changes, and nothing else. -/
theorem Sound.announce (h : Sound s o) (closer : o.closer = .waiting) :
    Sound s (o.step .close) := by
  have settled : o.settled = o.session := settled_eq (by simp [closer])
  have opened : o.session.status = .opened := by
    have status := h.status
    rwa [settled, closer] at status
  have next : o.step .close =
      { o with session := { o.session with status := .closed o.reason }, closer := .announced } := by
    simp [step, Closer.advance, closer, opened]
  rw [next]
  refine h.of_close rfl rfl ?_ ?_ rfl ?_ ?_ ?_ ?_
  · exact (settled ▸ h.registered).congr rfl rfl rfl
  · intro open_
    cases open_
  · intro ref left telling
    cases telling
  · intro id
    rw [settled]
    rfl
  · intro id waits
    rw [settled] at waits
    exact waits
  · intro ids owes
    cases owes

/-- What is in the table is owed from now on. -/
theorem Sound.collect (h : Sound s o) (closer : o.closer = .announced) :
    Sound s (o.step .close) := by
  have settled : o.settled = o.session := settled_eq (by simp [closer])
  have next : o.step .close = { o with closer := .collecting o.session.table.keys [] } := by
    simp [step, Closer.advance, closer]
  rw [next]
  refine h.of_same rfl rfl settled.symm (by rw [closer]; rfl) (by simp) ?_
  intro ids owes id waits
  cases owes
  rw [settled] at waits
  exact .inl (Keyed.mem_keys_iff.mpr waits)

/-- What is still there of what is owed has been found. -/
theorem Sound.collected (h : Sound s o) {listed found : List RequestId}
    (closer : o.closer = .collecting listed found) : Sound s (o.step .close) := by
  have settled : o.settled = o.session := settled_eq (by simp [closer])
  have owed := h.owed
  rw [closer] at owed
  by_cases complete : (listed.all fun id => found.contains id || !o.session.isOutstanding id) = true
  · have next : o.step .close = { o with closer := .failing found } := by
      simp only [step, Closer.advance, closer, complete, if_true]
    rw [next]
    refine h.of_same rfl rfl settled.symm (by rw [closer]; rfl) (by simp) ?_
    intro ids owes id waits
    cases owes
    rcases owed listed rfl id waits with listed | late
    · have passed := List.all_eq_true.mp complete id listed
      rw [settled] at waits
      simp only [waits, Bool.not_true, Bool.or_false, List.contains_iff_mem] at passed
      exact .inl passed
    · exact .inr late
  · have next : o.step .close = { o with closer := .collecting listed found } := by
      simp only [step, Closer.advance, closer, complete, Bool.false_eq_true, if_false]
    rw [next]
    exact h.of_same rfl rfl settled.symm (by rw [closer]) (by simp) owed

/-- An entry that is gone by now need not be taken. -/
theorem Sound.skip (h : Sound s o) {left : List RequestId}
    (closer : o.closer = .failing (id :: left)) (gone : o.session.table.get? id = none) :
    Sound s (o.step .close) := by
  have settled : o.settled = o.session := settled_eq (by simp [closer])
  have owed := h.owed
  rw [closer] at owed
  have next : o.step .close = { o with closer := .failing left } := by
    simp [step, Closer.advance, closer, gone]
  rw [next]
  refine h.of_same rfl rfl settled.symm (by rw [closer]; rfl) (by simp) ?_
  intro ids owes other waits
  cases owes
  rcases owed (id :: left) rfl other waits with listed | late
  · rcases List.mem_cons.mp listed with rfl | listed
    · rw [settled] at waits
      simp [Session.isOutstanding, Keyed.contains, gone] at waits
    · exact .inl listed
  · exact .inr late

/-- An entry is taken, and its caller as good as told. -/
theorem Sound.take (h : Sound s o) {left : List RequestId} {e : Entry}
    (closer : o.closer = .failing (id :: left)) (entry : o.session.table.get? id = some e) :
    Sound s (o.step .close) := by
  have settled : o.settled = o.session := settled_eq (by simp [closer])
  have next : o.step .close = { o with
      session := o.session.removeEntry id, closer := .telling e.mailbox left } := by
    simp [step, Closer.advance, closer, entry]
  have resolved : (o.step .close).settled =
      o.session.resolve id (.failed (.connectionClosed o.reason)) := by
    rw [← Session.fail_eq_resolve, next]
    simp [Overlap.settled, Session.fail, entry]
  have registered : Registered o.session := settled ▸ h.registered
  have connection := Session.resolve_connection id (.failed (.connectionClosed o.reason)) o.session
  have owed := h.owed
  rw [closer, settled] at owed
  refine h.of_close ?_ ?_ ?_ ?_ ?_ ?_ ?_ ?_ ?_
  · rw [next]
  · rw [next]
  · rw [resolved]
    exact registered.resolve id _
  · rw [resolved, Session.Works, connection.status, connection.writing, ← settled]
    exact h.works
  · rw [resolved, connection.status, ← settled, h.status, closer, next]
    rfl
  · intro ref rest telling
    obtain ⟨t, held, -, mailbox, -, -⟩ := registered.entry entry
    rw [next] at telling
    cases telling
    rw [settled_size, next, mailbox]
    exact registered.bound id _ (Session.ref?_of_ticket? held)
  · intro other
    rw [resolved, settled]
    exact Session.onEntry_ref? id _ o.session other
  · intro other waits
    rw [resolved]
    exact registered.awaits_resolve id (settled ▸ waits)
  · intro ids owes other waits
    rw [next] at owes
    cases owes
    rw [resolved, Session.isOutstanding, Keyed.contains, Session.resolve_table,
      Keyed.get?_erase] at waits
    split at waits
    · cases waits
    · rename_i ne
      rcases owed (id :: left) rfl other waits with listed | late
      · rcases List.mem_cons.mp listed with rfl | listed
        · exact absurd rfl ne
        · exact .inl listed
      · exact .inr late

theorem Sound.close (h : Sound s o) : Sound s (o.step .close) := by
  cases closer : o.closer with
  | waiting => exact h.announce closer
  | announced => exact h.collect closer
  | collecting listed found => exact h.collected closer
  | failing left =>
    cases left with
    | nil =>
      have next : o.step .close = { o with closer := .finished } := by
        simp [step, Closer.advance, closer]
      have settled : o.settled = o.session := settled_eq (by simp [closer])
      have owed := h.owed
      rw [closer] at owed
      rw [next]
      exact h.of_same rfl rfl settled.symm (by rw [closer]; rfl) (by simp) owed
    | cons id left =>
      cases entry : o.session.table.get? id with
      | none => exact h.skip closer entry
      | some e => exact h.take closer entry
  | telling ref left =>
    -- That the caller is told, the settled session knows already.
    have next : o.step .close = { o with session := o.settled, closer := .failing left } := by
      simp only [step, Closer.advance, closer, Overlap.settled]
      rfl
    have owed := h.owed
    rw [closer] at owed
    rw [next]
    exact h.of_same rfl rfl rfl (by rw [closer]; rfl) (by simp) owed
  | finished =>
    have next : o.step .close = o := by
      simp only [step, Closer.advance, closer]
      rw [← closer]
    rwa [next]

theorem Sound.find (h : Sound s o) (id : RequestId) : Sound s (o.step (.find id)) := by
  have owed := h.owed
  cases closer : o.closer with
  | collecting listed found =>
    have settled : o.settled = o.session := by simp [Overlap.settled, closer]
    rw [closer] at owed
    obtain ⟨found, next⟩ : ∃ found, o.step (.find id) =
        { o with closer := .collecting listed found } := by
      cases waits : o.session.isOutstanding id with
      | true => exact ⟨found ++ [id], by simp [step, Closer.find, closer, waits]⟩
      | false => exact ⟨found, by simp [step, Closer.find, closer, waits]⟩
    rw [next]
    exact h.of_same rfl rfl settled.symm (by rw [closer]; rfl) (by simp) owed
  | _ =>
    have same : o.step (.find id) = o := by
      simp only [step, Closer.find, closer]
      rw [← closer]
    rwa [same]

/-! ## All that can happen -/

theorem Sound.leaveOutput (h : Sound s o) : Sound s (o.step .leaveOutput) := by
  cases status : o.session.status.isClosed with
  | false =>
    have same : o.step .leaveOutput = o := by simp [step, Session.leaveOutput, status]
    rwa [same]
  | true =>
    have next : o.step .leaveOutput =
        { o with session := { o.session with writing := false, outbox := [] } } := by
      simp [step, Session.leaveOutput, status]
    have settled : (o.step .leaveOutput).settled =
        { o.settled with writing := false, outbox := [] } := by
      rw [next]
      cases closer : o.closer <;> simp [Overlap.settled, closer, Session.onMailbox]
    refine h.of_close ?_ ?_ ?_ ?_ ?_ ?_ ?_ ?_ ?_
    · rw [next]
    · rw [next]
    · rw [settled]
      exact h.registered.congr rfl rfl rfl
    · intro opened
      rw [settled_status, next, status] at opened
      cases opened
    · rw [settled, next]
      exact h.status
    · intro ref left telling
      rw [settled]
      rw [next] at telling
      exact h.bound ref left telling
    · intro id
      rw [settled]
      rfl
    · intro id waits
      rw [settled]
      exact waits
    · rw [settled, next]
      exact h.owed

theorem Sound.step (h : Sound s o) (a : Act) : Sound s (o.step a) := by
  cases a with
  | send id => exact h.send id
  | close => exact h.close
  | find id => exact h.find id
  | leaveOutput => exact h.leaveOutput

theorem Sound.run (h : Sound s o) (acts : List Act) : Sound s (run acts o) := by
  induction acts generalizing o with
  | nil => exact h
  | cons a acts ih => exact ih (h.step a)

end Overlap

end Backchannel
