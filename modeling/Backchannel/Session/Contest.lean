/-
# Backchannel.Session.Contest -- operations on one request that run into each other

`Session.route`, `fail`, `sweep`, `failAll` and `recv` are told elsewhere as if each were done
at once.  In truth several of them are under way on different threads, and between two of their
steps anything may have happened.

Who routes a response looks up the mailbox of its request, then puts the item there or closes
it, and after the last response removes the entry.  The others go about it the other way round:
they take the entry first and then tell its caller.  To know whose entries to take, a sweep and
the failure of all go through the table; an id that is in the table all the while is come upon,
one that goes meanwhile may be.

A caller looks into its mailbox and, if nothing is there, at its deadline.  When it is told that
there is no more, it removes its entry.

A `Contest` is how far they all are.  A list of `Act`s is one order of their steps.
-/
import Backchannel.Session.Basic

namespace Backchannel

set_option autoImplicit false

open Backchannel.Json (Value)

/-- Why entries are taken. -/
inductive Grounds where
  /-- Their deadline had passed at that time. -/
  | expired (now : Instant)
  | failure (e : CallError)

namespace Grounds

/-- An entry is taken on these grounds. -/
def covers (why : Grounds) (e : Entry) : Bool :=
  match why with
  | .expired now => e.deadline ≤ now
  | .failure _ => true

/-- How the caller is told. -/
def closure (why : Grounds) (id : RequestId) (e : Entry) : Closure :=
  match why with
  | .expired _ => .failed (.timeout id (e.deadline - e.createdAt))
  | .failure error => .failed error

end Grounds

/-- What is to be done with the requests of a session. -/
inductive Operation where
  | route (r : Response)
  | fail (id : RequestId) (e : CallError)
  | sweep (now : Instant)
  | failAll (e : CallError)

/-- How far an operation is. -/
inductive Phase where
  /-- It looks for the mailbox that the response goes to. -/
  | looking (r : Response)
  /-- It has the mailbox. -/
  | handing (ref : MailboxRef) (r : Response)
  /-- The mailbox is closed, the entry is still to be removed. -/
  | clearing (id : RequestId)
  | starting (why : Grounds)
  /-- It goes through the table, where it has to come upon `owed`. -/
  | gathering (why : Grounds) (owed : List RequestId)
  | taking (why : Grounds) (left : List RequestId)
  /-- An entry was taken whose caller is still to be told. -/
  | telling (ref : MailboxRef) (c : Closure) (why : Grounds) (left : List RequestId)
  | finished

structure Worker where
  op : Operation
  phase : Phase
  /-- Whose entries it is to take, as far as it knows. -/
  collected : List RequestId

namespace Worker

/-- An operation that is still to begin. -/
def begin (op : Operation) : Worker :=
  match op with
  | .route r => ⟨op, .looking r, []⟩
  | .fail id e => ⟨op, .taking (.failure e) [id], [id]⟩
  | .sweep now => ⟨op, .starting (.expired now), []⟩
  | .failAll e => ⟨op, .starting (.failure e.duplicate), []⟩

/-- The next step of an operation, and what it makes of the session. -/
def advance (w : Worker) (s : Session) : Phase × Session :=
  match w.phase with
  | .looking r =>
    match s.table.get? r.id with
    | some e => (.handing e.mailbox r, s)
    | none => (.finished, s)
  | .handing ref r =>
    match r.reply with
    | .item v => (.finished, s.onMailbox ref (.push v))
    | .finish => (.clearing r.id, s.onMailbox ref (.close .finished))
    | .failed message =>
      (.clearing r.id, s.onMailbox ref (.close (.failed (.application message))))
  | .clearing id => (.finished, s.removeEntry id)
  | .starting why => (.gathering why (Keyed.keys (s.table.filter fun e => why.covers e.2)), s)
  | .gathering why owed =>
    -- It cannot have passed an id that was there all the while.
    if owed.all fun id => w.collected.contains id || !s.isOutstanding id then
      (.taking why w.collected, s)
    else (.gathering why owed, s)
  | .taking _ [] => (.finished, s)
  | .taking why (id :: left) =>
    match (s.table.get? id).filter why.covers with
    | some e => (.telling e.mailbox (why.closure id e) why left, s.removeEntry id)
    | none => (.taking why left, s)
  | .telling ref c why left => (.taking why left, s.onMailbox ref (.close c))
  | .finished => (.finished, s)

/-- It comes upon an id in the table. -/
def find (id : RequestId) (s : Session) (w : Worker) : Worker :=
  match w.phase with
  | .gathering why _ =>
    if ((s.table.get? id).filter why.covers).isSome then
      { w with collected := w.collected ++ [id] }
    else w
  | _ => w

end Worker

/-- How far the caller of a request is with its pull. -/
inductive Pull where
  | resting
  /-- Nothing was there. -/
  | waiting
  /-- It was told that there is no more, and still has to remove its entry. -/
  | leaving (got : Pulled Value)

/-- The next step of a pull: what it brings, if that is its last, and what it makes of the
session. -/
def Pull.advance (id : RequestId) (p : Pull) (s : Session) :
    Option (Pulled Value) × Pull × Session :=
  match s.subscriptions.get? id, s.mailboxOf? id with
  | some sub, some box =>
    match p with
    | .resting =>
      if sub.done then (some .finished, .resting, s)
      else
        let (got, box) := box.take
        let s := s.onMailbox sub.mailbox fun _ => box
        match got with
        | .item v => (some (.item v), .resting, s)
        | .pending => (none, .waiting, s)
        | .finished => (none, .leaving .finished, s)
        | .failed e => (none, .leaving (.failed e), s)
    | .waiting =>
      if sub.deadline ≤ s.now then (none, .leaving (.failed (.timeout id sub.timeout)), s)
      else (some .pending, .resting, s)
    | .leaving got => (some got, .resting, s.conclude id)
  | _, _ => (none, p, s)

/-- Operations on the requests of a session, and the callers of these requests. -/
structure Contest where
  session : Session
  workers : List Worker
  pulls : RequestId → Pull

namespace Contest

/-- A step of one of them. -/
inductive Act where
  /-- The operation at that place goes on. -/
  | work (n : Nat)
  /-- The operation at that place comes upon an id in the table. -/
  | find (n : Nat) (id : RequestId)
  /-- The caller of a request goes on with its pull. -/
  | pull (id : RequestId)
  /-- The caller lets go of a request. -/
  | drop (id : RequestId)
  /-- Time passes. -/
  | pass (span : Duration)
  deriving DecidableEq

/-- All are still to begin. -/
def begin (s : Session) (ops : List Operation) : Contest where
  session := s
  workers := ops.map .begin
  pulls := fun _ => .resting

/-- What a step brings its caller, and what it makes of them all. -/
def perform (o : Contest) (a : Act) : Option (Pulled Value) × Contest :=
  match a with
  | .work n =>
    match o.workers[n]? with
    | some w =>
      let (phase, s) := w.advance o.session
      (none, { o with session := s, workers := o.workers.set n { w with phase := phase } })
    | none => (none, o)
  | .find n id =>
    match o.workers[n]? with
    | some w => (none, { o with workers := o.workers.set n (w.find id o.session) })
    | none => (none, o)
  | .pull id =>
    let (got, p, s) := (o.pulls id).advance id o.session
    (got, { o with
      session := s
      pulls := fun other => if other = id then p else o.pulls other })
  | .drop id =>
    -- A pull that has begun comes to its end first.
    match o.pulls id with
    | .resting => (none, { o with session := o.session.drop id })
    | _ => (none, o)
  | .pass span => (none, { o with session := { o.session with now := o.session.now + span } })

def step (o : Contest) (a : Act) : Contest := (o.perform a).2

def run (acts : List Act) (o : Contest) : Contest := acts.foldl step o

end Contest

end Backchannel
