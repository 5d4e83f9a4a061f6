/-
# Backchannel.Proofs.Session.Sound -- what an operation means for each request

Many requests share a session, but an operation on the session means only one thing to
each of them: a `Turn`.  `Turns s s' turns` says that from `s` to `s'` each request has
taken its turn, so what happens to one request can be followed without the others.

On the way every operation keeps the session `Sound`: it is registered, its writer works
as long as it is open, and no entry is left once it is closed.
-/
import Backchannel.Proofs.Session.Registered
import Backchannel.Session.Clock

namespace Backchannel

set_option autoImplicit false

open Backchannel.Json (Value)

/-- What a move means for one request. -/
inductive Turn where
  | idle
  /-- The request is made, and its caller has that ticket. -/
  | opened (t : Ticket)
  | item (v : Value)
  | closed (c : Closure)
  /-- The caller pulls, at that time. -/
  | pulled (now : Instant)
  | dropped

namespace Turn

def apply (id : RequestId) : Turn → Option Ticket → Option Ticket
  | .idle, t => t
  | .opened t, _ => some t
  | .item v, t => t.map (.put v)
  | .closed c, t => t.map (.close c)
  | .pulled now, t => t.map fun t => (t.pull id now).2
  | .dropped, _ => none

def ofReply : Reply → Turn
  | .item v => .item v
  | .finish => .closed .finished
  | .failed message => .closed (.failed (.application message))

/-- What a notice means for a request. -/
def ofNotice (id : RequestId) : Notice → Turn
  | .response r => if r.id = id then ofReply r.reply else .idle
  | .malformed other how =>
    if other = id then .closed (.failed (.protocol (.malformedResponse how))) else .idle
  | .nothing | .request _ => .idle

/-- Where the closure of a mailbox comes from. -/
theorem apply_closure {turn : Turn} {id : RequestId} {ticket : Option Ticket} {t : Ticket}
    {c : Closure} (turned : turn.apply id ticket = some t) (closed : t.box.closure = some c) :
    (∃ held, ticket = some held ∧ held.box.closure = some c) ∨ c = .finished ∨
      turn = .closed c ∨ turn = .opened t := by
  cases turn with
  | idle => exact .inl ⟨t, turned, closed⟩
  | opened new => exact .inr (.inr (.inr (congrArg Turn.opened (Option.some.inj turned))))
  | dropped => cases turned
  | item v =>
    obtain ⟨held, rfl, rfl⟩ := Option.map_eq_some_iff.mp turned
    exact .inl ⟨held, rfl, by simpa using closed⟩
  | closed given =>
    obtain ⟨held, rfl, rfl⟩ := Option.map_eq_some_iff.mp turned
    cases isOpen : held.isOpen with
    | false =>
      rw [Ticket.close_of_not_open isOpen] at closed
      exact .inl ⟨held, rfl, closed⟩
    | true =>
      have opened := (Ticket.isOpen_iff.mp isOpen).2
      simp only [Ticket.close, isOpen, if_true, Mailbox.close_closure, opened, Option.getD_none,
        Option.some.injEq] at closed
      exact .inr (.inr (.inl (congrArg Turn.closed closed)))
  | pulled now =>
    obtain ⟨held, rfl, rfl⟩ := Option.map_eq_some_iff.mp turned
    rcases held.pull_closure id now with same | finished
    · exact .inl ⟨held, rfl, same ▸ closed⟩
    · rw [finished] at closed
      exact .inr (.inl (Option.some.inj closed).symm)

end Turn

namespace Session

variable {s : Session} {id : RequestId}

/-! ## Many requests at once -/

/-- Resolves requests one after the other. -/
def resolveEach (causes : Keyed RequestId Closure) (s : Session) : Session :=
  causes.foldl (fun s e => s.resolve e.1 e.2) s

theorem Registered.resolveEach (h : Registered s) (causes : Keyed RequestId Closure) :
    Registered (s.resolveEach causes) := by
  induction causes generalizing s with
  | nil => exact h
  | cons e causes ih => exact ih (h.resolve e.1 e.2)

theorem resolveEach_table (causes : Keyed RequestId Closure) (s : Session) (other : RequestId) :
    (s.resolveEach causes).table.get? other =
      if (causes.get? other).isSome then none else s.table.get? other := by
  induction causes generalizing s with
  | nil => rfl
  | cons e causes ih =>
    obtain ⟨id, c⟩ := e
    refine (ih (s.resolve id c)).trans ?_
    rw [resolve_table, Keyed.get?_erase, Keyed.get?_cons]
    by_cases same : id = other <;> simp [same]

/-- Of several causes for one request the first counts. -/
theorem Registered.resolveEach_ticket? (h : Registered s) (causes : Keyed RequestId Closure)
    (other : RequestId) :
    (s.resolveEach causes).ticket? other =
      match causes.get? other with
      | some c => (s.ticket? other).map (.close c)
      | none => s.ticket? other := by
  induction causes generalizing s with
  | nil => rfl
  | cons e causes ih =>
    obtain ⟨id, c⟩ := e
    refine (ih (h.resolve id c)).trans ?_
    rw [h.resolve_ticket?, Keyed.get?_cons]
    by_cases same : id = other
    · subst same
      rw [if_pos rfl, if_pos rfl]
      cases Keyed.get? id causes with
      | none => rfl
      | some later =>
        cases held : s.ticket? id with
        | none => rfl
        | some t => simp [Ticket.close_of_not_open (t.close_isOpen c)]
    · rw [if_neg same, if_neg same]

/-- What no move on requests changes. -/
structure SameConnection (s s' : Session) : Prop where
  settings : s'.settings = s.settings
  status : s'.status = s.status
  writing : s'.writing = s.writing
  now : s'.now = s.now

theorem onEntry_connection (id : RequestId) (f : Mailbox → Mailbox) (s : Session) :
    SameConnection s (s.onEntry id f) := by
  unfold onEntry
  split <;> exact ⟨rfl, rfl, rfl, rfl⟩

theorem resolve_connection (id : RequestId) (c : Closure) (s : Session) :
    SameConnection s (s.resolve id c) :=
  have entry := onEntry_connection id (.close c) s
  ⟨entry.settings, entry.status, entry.writing, entry.now⟩

theorem resolveEach_connection (causes : Keyed RequestId Closure) (s : Session) :
    SameConnection s (s.resolveEach causes) := by
  induction causes generalizing s with
  | nil => exact ⟨rfl, rfl, rfl, rfl⟩
  | cons e causes ih =>
    have first := resolve_connection e.1 e.2 s
    have rest := ih (s.resolve e.1 e.2)
    exact ⟨rest.settings.trans first.settings, rest.status.trans first.status,
      rest.writing.trans first.writing, rest.now.trans first.now⟩

/-- Why a sweep resolves a request. -/
def expiry (id : RequestId) (e : Entry) : Closure :=
  .failed (.timeout id (e.deadline - e.createdAt))

/-- Why a sweep resolves a request, if it does. -/
def expiry? (s : Session) (id : RequestId) : Option Closure :=
  ((s.table.get? id).filter fun e => e.deadline ≤ s.now).map (expiry id)

theorem expire_eq (id : RequestId) (s : Session) :
    s.expire id =
      match s.expiry? id with
      | some c => (true, s.resolve id c)
      | none => (false, s) := by
  simp only [expire, expiry?]
  cases (s.table.get? id).filter fun e => e.deadline ≤ s.now with
  | some e => exact congrArg (Prod.mk true) (fail_eq_resolve id _ s)
  | none => rfl

theorem expire_now (id : RequestId) (s : Session) : (s.expire id).2.now = s.now := by
  rw [expire_eq]
  split
  · exact (resolve_connection id _ s).now
  · rfl

theorem resolve_expiry? (id : RequestId) (c : Closure) (s : Session) (other : RequestId) :
    (s.resolve id c).expiry? other = if id = other then none else s.expiry? other := by
  simp only [expiry?, resolve_table, Keyed.get?_erase, (resolve_connection id c s).now]
  split <;> rfl

theorem expiry?_of_none (absent : s.table.get? id = none) : s.expiry? id = none := by
  simp [expiry?, absent]

/-- What a sweep does, which goes through the ids `ids` and has come to `s` from `first`.  Who
is no longer there when its turn comes is left out. -/
theorem foldl_expire (ids : List RequestId) (swept : Nat) {first : Session}
    (since : ∀ id, s.expiry? id = first.expiry? id ∨ s.table.get? id = none) :
    (ids.foldl (fun swept id => (swept.1 + (swept.2.expire id).1.toNat, (swept.2.expire id).2))
        (swept, s)).2 =
      s.resolveEach (ids.filterMap fun id => (first.expiry? id).map (id, ·)) := by
  induction ids generalizing s swept with
  | nil => rfl
  | cons id ids ih =>
    rw [List.foldl_cons, List.filterMap_cons, expire_eq]
    cases cause : first.expiry? id with
    | none =>
      have stays : s.expiry? id = none := (since id).elim (·.trans cause) expiry?_of_none
      rw [stays]
      exact ih _ since
    | some c =>
      rcases since id with same | gone
      · rw [same.trans cause]
        refine ih _ fun other => ?_
        rw [resolve_expiry?, resolve_table, Keyed.get?_erase]
        by_cases own : id = other
        · exact .inr (if_pos own)
        · rw [if_neg own, if_neg own]
          exact since other
      · rw [expiry?_of_none gone]
        refine (ih _ since).trans ?_
        rw [Option.map_some, resolveEach, resolveEach, List.foldl_cons, resolve_of_none gone]

/-- The requests that a sweep resolves, and why. -/
def expiries (s : Session) : Keyed RequestId Closure :=
  s.expired.keys.filterMap fun id => (s.expiry? id).map (id, ·)

theorem sweep_eq (s : Session) : s.sweep = s.resolveEach s.expiries :=
  foldl_expire s.expired.keys 0 fun _ => .inl rfl

theorem mem_expired {e : Entry} (found : s.table.get? id = some e) (late : e.deadline ≤ s.now) :
    id ∈ s.expired.keys :=
  List.mem_map.mpr ⟨(id, e),
    List.mem_filter.mpr ⟨Keyed.mem_of_get? found, decide_eq_true late⟩, rfl⟩

theorem expiries_get? (s : Session) (id : RequestId) : s.expiries.get? id = s.expiry? id := by
  rw [expiries, Keyed.get?_filterMap]
  split
  · rfl
  · rename_i spared
    cases cause : s.expiry? id with
    | none => rfl
    | some c =>
      obtain ⟨e, among, -⟩ := Option.map_eq_some_iff.mp cause
      obtain ⟨found, late⟩ := Option.filter_eq_some_iff.mp among
      exact absurd (mem_expired found (of_decide_eq_true late)) spared

/-- A sweep resolves the requests whose deadline has passed. -/
theorem Registered.sweep_ticket? (h : Registered s) (id : RequestId) :
    s.sweep.ticket? id =
      match (s.table.get? id).filter fun e => e.deadline ≤ s.now with
      | some e => (s.ticket? id).map (.close (expiry id e))
      | none => s.ticket? id := by
  rw [sweep_eq, h.resolveEach_ticket?, expiries_get?, expiry?]
  cases (s.table.get? id).filter fun e => e.deadline ≤ s.now <;> rfl

theorem failAll_eq (e : CallError) (s : Session) :
    s.failAll e = s.resolveEach (s.table.map fun x => (x.1, .failed e.duplicate)) := by
  simp only [failAll, resolveEach, Keyed.keys, List.foldl_map, fail_eq_resolve]

theorem failAll_table (e : CallError) (s : Session) : (s.failAll e).table = [] := by
  apply Keyed.eq_nil_of_get?
  intro id
  rw [failAll_eq, resolveEach_table, Keyed.get?_map fun _ _ => Closure.failed e.duplicate]
  cases s.table.get? id <;> rfl

theorem Registered.failAll_ticket? (h : Registered s) (e : CallError) (id : RequestId) :
    (s.failAll e).ticket? id = (s.ticket? id).map (.close (.failed e.duplicate)) := by
  rw [failAll_eq, h.resolveEach_ticket?, Keyed.get?_map fun _ _ => Closure.failed e.duplicate]
  have agree := h.agree id
  cases found : s.table.get? id with
  | some entry => rfl
  | none =>
    cases held : s.ticket? id with
    | none => rfl
    | some t =>
      rw [found, held] at agree
      simp [Ticket.close_of_not_open agree]

/-! ## The connection -/

/-- What depends on whether the session is open. -/
structure Governed (s : Session) : Prop where
  writing : s.status.isClosed = false → s.writing = true
  emptied : s.status.isClosed = true → s.table = []

structure Sound (s : Session) : Prop extends Registered s, Governed s

theorem sound_start (settings : Settings) : Sound (start settings) where
  toRegistered := registered_start settings
  toGoverned := ⟨fun _ => rfl, fun _ => rfl⟩

theorem shutDown_of_closed (h : s.status.isClosed = true) (reason : CloseReason) :
    s.shutDown reason = s := by
  cases status : s.status with
  | opened => simp [status, Status.isClosed] at h
  | closed first => simp [shutDown, status]

theorem shutDown_of_open (h : s.status.isClosed = false) (reason : CloseReason) :
    s.shutDown reason =
      { s with status := .closed reason }.failAll (.connectionClosed reason) := by
  cases status : s.status with
  | opened => simp [shutDown, status]
  | closed first => simp [status, Status.isClosed] at h

theorem shutDown_status (h : s.status.isClosed = false) (reason : CloseReason) :
    (s.shutDown reason).status = .closed reason := by
  rw [shutDown_of_open h, failAll_eq]
  exact (resolveEach_connection _ _).status

theorem shutDown_settings (reason : CloseReason) (s : Session) :
    (s.shutDown reason).settings = s.settings := by
  cases status : s.status.isClosed with
  | true => rw [shutDown_of_closed status]
  | false =>
    rw [shutDown_of_open status, failAll_eq]
    exact (resolveEach_connection _ _).settings

/-- What a close means for each request. -/
def closing (s : Session) (reason : CloseReason) : Turn :=
  if s.status.isClosed then .idle else .closed (.failed (.connectionClosed reason))

theorem Registered.shutDown_ticket? (h : Registered s) (reason : CloseReason)
    (id : RequestId) :
    (s.shutDown reason).ticket? id = (s.closing reason).apply id (s.ticket? id) := by
  cases status : s.status.isClosed with
  | true => simp [shutDown_of_closed status, closing, status, Turn.apply]
  | false =>
    rw [shutDown_of_open status]
    have opened : Registered { s with status := .closed reason } := h.congr rfl rfl rfl
    rw [opened.failAll_ticket?]
    simp [closing, status, Turn.apply, CallError.duplicate]
    rfl

theorem Registered.shutDown (h : Registered s) (reason : CloseReason) :
    Registered (s.shutDown reason) := by
  cases status : s.status.isClosed with
  | true => rwa [shutDown_of_closed status]
  | false =>
    rw [shutDown_of_open status, failAll_eq]
    have opened : Registered { s with status := .closed reason } := h.congr rfl rfl rfl
    exact opened.resolveEach _

/-- After a close the session is closed, and no entry is left. -/
theorem Governed.shutDown (h : Governed s) (reason : CloseReason) :
    (s.shutDown reason).status.isClosed = true ∧ (s.shutDown reason).table = [] := by
  cases status : s.status.isClosed with
  | true =>
    rw [shutDown_of_closed status]
    exact ⟨status, h.emptied status⟩
  | false =>
    refine ⟨by rw [shutDown_status status]; rfl, ?_⟩
    rw [shutDown_of_open status, failAll_table]

/-- A change that leaves status and writer alone, and adds no entry. -/
theorem Governed.of_table {s' : Session} (h : Governed s) (same : SameConnection s s')
    (table : s.table = [] → s'.table = []) : Governed s' where
  writing := by
    rw [same.status, same.writing]
    exact h.writing
  emptied := by
    rw [same.status]
    exact fun closed => table (h.emptied closed)

/-! ## Turns -/

/-- `s'` is sound, and each request has taken its turn. -/
structure Turns (s s' : Session) (turns : RequestId → Turn) : Prop extends Sound s' where
  settings : s'.settings = s.settings
  ticket : ∀ id, s'.ticket? id = (turns id).apply id (s.ticket? id)

theorem Turns.idle (h : Sound s) : Turns s s fun _ => .idle := ⟨h, rfl, fun _ => rfl⟩

/-- A change to anything but entries, subscriptions, mailboxes, status and writer. -/
theorem Sound.outside {s' : Session} (h : Sound s)
    (table : s'.table = s.table) (subscriptions : s'.subscriptions = s.subscriptions)
    (mailboxes : s'.mailboxes = s.mailboxes) (same : SameConnection s s') :
    Turns s s' fun _ => .idle := by
  refine ⟨⟨h.toRegistered.congr table subscriptions mailboxes, ?_⟩, same.settings,
    ticket?_congr subscriptions mailboxes⟩
  exact h.toGoverned.of_table same fun empty => table.trans empty

theorem Sound.resolve (h : Sound s) (id : RequestId) (c : Closure) :
    Turns s (s.resolve id c) fun other => if id = other then .closed c else .idle where
  toRegistered := h.toRegistered.resolve id c
  toGoverned := by
    refine h.toGoverned.of_table (resolve_connection id c s) fun empty => ?_
    rw [resolve_table, empty]
    rfl
  settings := (resolve_connection id c s).settings
  ticket := by
    intro other
    rw [h.toRegistered.resolve_ticket?]
    by_cases same : id = other
    · subst same
      simp [Turn.apply]
    · simp [same, Turn.apply]

theorem Sound.put (h : Sound s) (id : RequestId) (v : Value) :
    Turns s (s.put id v) fun other => if id = other then .item v else .idle where
  toRegistered := h.toRegistered.put id v
  toGoverned := by
    refine h.toGoverned.of_table (onEntry_connection id _ s) fun empty => ?_
    rw [Session.put, onEntry_table, empty]
  settings := (onEntry_connection id _ s).settings
  ticket := by
    intro other
    rw [h.toRegistered.put_ticket?]
    by_cases same : id = other
    · subst same
      simp [Turn.apply]
    · simp [same, Turn.apply]

theorem route_snd (r : Response) (s : Session) :
    (s.route r).2 =
      match Turn.ofReply r.reply with
      | .item v => s.put r.id v
      | .closed c => s.resolve r.id c
      | _ => s := by
  cases found : s.table.get? r.id with
  | none =>
    have absent := Keyed.erase_of_get?_none found
    cases r.reply <;>
      simp [route, found, Turn.ofReply, Session.put, Session.resolve, onEntry, removeEntry, absent]
  | some e =>
    cases reply : r.reply <;>
      simp [route, found, reply, Turn.ofReply, Session.put, Session.resolve, onEntry, removeEntry,
        onMailbox]

theorem Sound.route (h : Sound s) (r : Response) :
    Turns s (s.route r).2 fun id => if r.id = id then .ofReply r.reply else .idle := by
  rw [route_snd]
  cases r.reply with
  | item v => exact h.put r.id v
  | finish => exact h.resolve r.id .finished
  | failed message => exact h.resolve r.id (.failed (.application message))

theorem Sound.heed (h : Sound s) (n : Notice) :
    Turns s (s.heed n) fun id => .ofNotice id n := by
  cases n with
  | nothing => exact .idle h
  | request f =>
    simp only [Session.heed, Turn.ofNotice]
    split
    · exact h.outside rfl rfl rfl ⟨rfl, rfl, rfl, rfl⟩
    · exact .idle h
  | response r => exact h.route r
  | malformed id how =>
    rw [Session.heed, fail_eq_resolve]
    exact h.resolve id _

theorem Sound.sweep (h : Sound s) :
    Turns s s.sweep fun id =>
      match (s.table.get? id).filter fun e => e.deadline ≤ s.now with
      | some e => .closed (expiry id e)
      | none => .idle where
  toRegistered := by
    rw [sweep_eq]
    exact h.toRegistered.resolveEach _
  toGoverned := by
    refine h.toGoverned.of_table (sweep_eq s ▸ resolveEach_connection _ _) fun empty => ?_
    simp [sweep_eq, expiries, expired, empty, Keyed.keys, resolveEach]
  settings := by
    rw [sweep_eq]
    exact (resolveEach_connection _ _).settings
  ticket := by
    intro id
    rw [h.toRegistered.sweep_ticket?]
    split <;> rfl

/-- A close, and whatever stops with it. -/
theorem Sound.shutDown {s' : Session} (h : Sound s) (reason : CloseReason)
    (table : s'.table = (s.shutDown reason).table)
    (subscriptions : s'.subscriptions = (s.shutDown reason).subscriptions)
    (mailboxes : s'.mailboxes = (s.shutDown reason).mailboxes)
    (status : s'.status = (s.shutDown reason).status)
    (settings : s'.settings = (s.shutDown reason).settings) :
    Turns s s' fun _ => s.closing reason := by
  obtain ⟨closed, empty⟩ := h.toGoverned.shutDown reason
  refine ⟨⟨(h.toRegistered.shutDown reason).congr table subscriptions mailboxes, ?_, ?_⟩, ?_, ?_⟩
  · intro opened
    rw [status, closed] at opened
    cases opened
  · exact fun _ => table.trans empty
  · exact settings.trans (shutDown_settings reason s)
  · intro id
    rw [ticket?_congr subscriptions mailboxes]
    exact h.toRegistered.shutDown_ticket? reason id

theorem Sound.drop (h : Sound s) (id : RequestId) :
    Turns s (s.drop id) fun other => if id = other then .dropped else .idle where
  toRegistered := h.toRegistered.drop id
  toGoverned := by
    refine h.toGoverned.of_table ⟨rfl, rfl, rfl, rfl⟩ fun empty => ?_
    simp [Session.drop, removeEntry, empty, Keyed.erase]
  settings := rfl
  ticket := by
    intro other
    rw [drop_ticket?]
    by_cases same : id = other <;> simp [same, Turn.apply]

theorem recv_connection (id : RequestId) (s : Session) : SameConnection s (s.recv id).2 := by
  cases held : s.ticket? id with
  | none => rw [recv_of_none held]; exact ⟨rfl, rfl, rfl, rfl⟩
  | some t =>
    rw [recv_eq held]
    simp only
    split
    · exact ⟨rfl, rfl, rfl, rfl⟩
    · split <;> exact ⟨rfl, rfl, rfl, rfl⟩

theorem Sound.recv (h : Sound s) (id : RequestId) :
    Turns s (s.recv id).2 fun other => if id = other then .pulled s.now else .idle := by
  cases held : s.ticket? id with
  | none =>
    rw [recv_of_none held]
    refine ⟨h, rfl, fun other => ?_⟩
    by_cases same : id = other
    · subst same
      simp [held, Turn.apply]
    · simp [same, Turn.apply]
  | some t =>
    have same := recv_connection id s
    refine ⟨⟨h.toRegistered.recv id, ?_⟩, same.settings, fun other => ?_⟩
    · refine h.toGoverned.of_table same fun empty => ?_
      rw [h.toRegistered.recv_table held, empty]
      simp [Keyed.erase]
    · rw [h.toRegistered.recv_ticket? held]
      by_cases same : id = other
      · subst same
        simp [held, Turn.apply]
      · simp [same, Turn.apply]

/-! ## Plugin, reader and writer -/

theorem Sound.failOutput (h : Sound s) (reason : CloseReason) :
    Turns s (s.failOutput reason) fun _ =>
      if s.writing && !s.outbox.isEmpty then s.closing reason else .idle := by
  unfold Session.failOutput
  split
  · exact h.shutDown reason rfl rfl rfl rfl rfl
  · exact .idle h

theorem Sound.stopInput (h : Sound s) (reason : CloseReason) :
    Turns s (s.stopInput reason) fun _ => if s.reading then s.closing reason else .idle := by
  unfold Session.stopInput
  split
  · exact h.shutDown reason rfl rfl rfl rfl rfl
  · exact .idle h

theorem Turns.of_condition {s' : Session} {reason : CloseReason} {p : Bool}
    (h : Turns s s' fun _ => if p then s.closing reason else .idle) :
    Turns s s' fun _ =>
      match if p then some reason else none with
      | some reason => s.closing reason
      | none => .idle := by
  cases p <;> exact h

/-- Reading on, and acting on what was read. -/
theorem Sound.hear (h : Sound s) (unread : Text.Utf8.Bytes) (n : Notice) :
    Turns s ({ s with unread := unread }.heed n) fun id => .ofNotice id n := by
  have read : Turns s { s with unread := unread } fun _ => .idle :=
    h.outside rfl rfl rfl ⟨rfl, rfl, rfl, rfl⟩
  have heed := read.toSound.heed n
  exact ⟨heed.toSound, heed.settings, heed.ticket⟩

theorem send_of_closed (closed : s.status.isClosed = true) (id : RequestId)
    (sessionId : Option String) (kind : Kind) (payload : Value) :
    s.send id sessionId kind payload = (.error s.refusal, s) := by
  simp [send, closed]

theorem Governed.send_of_open (h : Governed s) (opened : s.status.isClosed = false)
    (id : RequestId) (sessionId : Option String) (kind : Kind) (payload : Value) :
    s.send id sessionId kind payload = (.ok (), { s.register id kind with
      outbox := s.outbox ++ [(OutboundFrame.invoke sessionId ⟨kind, id, payload⟩).toLine] }) := by
  simp [Session.send, opened, Session.register, enqueue, h.writing opened]

theorem Sound.send (h : Sound s) (id : RequestId) (sessionId : Option String) (kind : Kind)
    (payload : Value) :
    Turns s (s.send id sessionId kind payload).2 fun other =>
      if id = other then
        if s.status.isClosed then .idle else .opened (s.newTicket other kind)
      else .idle := by
  cases status : s.status.isClosed with
  | true =>
    rw [send_of_closed status]
    refine ⟨h, rfl, fun other => ?_⟩
    simp [Turn.apply]
  | false =>
    rw [h.send_of_open status]
    refine ⟨⟨(h.toRegistered.register id kind).congr rfl rfl rfl, h.writing, ?_⟩, rfl,
      fun other => ?_⟩
    · intro closed
      exact absurd closed (by simp [Session.register, status])
    · refine (h.toRegistered.register_ticket? id kind other).trans ?_
      by_cases same : id = other
      · subst same
        simp [Turn.apply]
      · simp [same, Turn.apply]

theorem heartbeat_of_closed (closed : s.status.isClosed = true) :
    s.heartbeat = (.error s.refusal, s) := by
  simp [heartbeat, closed]

theorem Governed.heartbeat_of_open (h : Governed s) (opened : s.status.isClosed = false) :
    s.heartbeat = (.ok (), { s with outbox := s.outbox ++ [OutboundFrame.heartbeat.toLine] }) := by
  simp [heartbeat, opened, enqueue, h.writing opened]

theorem Sound.heartbeat (h : Sound s) : Turns s s.heartbeat.2 fun _ => .idle := by
  cases status : s.status.isClosed with
  | true =>
    rw [heartbeat_of_closed status]
    exact .idle h
  | false =>
    rw [h.heartbeat_of_open status]
    exact h.outside rfl rfl rfl ⟨rfl, rfl, rfl, rfl⟩

end Session

end Backchannel
