/-
# Backchannel.Session.Overlap -- requests made while the session is closed

`Session.send` and `Session.shutDown` are told elsewhere as if each were done at once.  In
truth several callers send while one closes, and between two of their steps anything may
have happened.

A caller looks whether the session is open, makes its entry, looks once more, and hands its
line to the writer; if it is refused after it made its entry, it lets go of it.  Who closes
the session changes the status first, then goes through the table to collect the ids, and
then takes the entries of these ids one by one, and tells each caller.  An id that is in the
table all the while is collected; one that comes or goes meanwhile may be.

An `Overlap` is how far they all are.  A list of `Act`s is one order of their steps.
-/
import Backchannel.Session.Clock

namespace Backchannel

set_option autoImplicit false

open Backchannel.Json (Value)

/-- A request that someone wants to make. -/
structure Wanted where
  sessionId : Option String
  kind : Kind
  payload : Value

/-- The line of the request, under its id. -/
def Wanted.line (id : RequestId) (w : Wanted) : String :=
  (OutboundFrame.invoke w.sessionId ⟨w.kind, id, w.payload⟩).toLine

/-- How far a caller is with its request. -/
inductive Stage where
  | starting
  /-- The session was open. -/
  | admitted
  /-- The entry is there. -/
  | registered
  /-- The session was still open then. -/
  | confirmed
  /-- The caller is to be told that, but first lets go of its request. -/
  | refused (e : CallError)
  | returned (result : Except CallError Unit)

structure Sender where
  wanted : Wanted
  stage : Stage

namespace Sender

/-- The caller's next step, and what it makes of the session. -/
def advance (id : RequestId) (w : Sender) (s : Session) : Stage × Session :=
  match w.stage with
  | .starting => (if s.status.isClosed then .returned (.error s.refusal) else .admitted, s)
  | .admitted => (.registered, s.register id w.wanted.kind)
  | .registered => (if s.status.isClosed then .refused s.refusal else .confirmed, s)
  | .confirmed =>
    match s.enqueue (w.wanted.line id) with
    | (.ok (), s) => (.returned (.ok ()), s)
    | (.error e, s) => (.refused e, s)
  | .refused e => (.returned (.error e), s.drop id)
  | .returned result => (.returned result, s)

end Sender

/-- How far the close is. -/
inductive Closer where
  | waiting
  /-- The session is closed for all to see. -/
  | announced
  /-- It goes through the table, which held `owed` when it began. -/
  | collecting (owed found : List RequestId)
  | failing (left : List RequestId)
  /-- An entry was taken whose caller is still to be told. -/
  | telling (ref : MailboxRef) (left : List RequestId)
  | finished

namespace Closer

/-- The next step of a close. -/
def advance (reason : CloseReason) (c : Closer) (s : Session) : Closer × Session :=
  match c with
  | .waiting =>
    match s.status with
    | .opened => (.announced, { s with status := .closed reason })
    | .closed _ => (.finished, s)
  | .announced => (.collecting s.table.keys [], s)
  | .collecting owed found =>
    -- It cannot have passed an id that was there all the while.
    if owed.all fun id => found.contains id || !s.isOutstanding id then (.failing found, s)
    else (.collecting owed found, s)
  | .failing [] => (.finished, s)
  | .failing (id :: left) =>
    match s.table.get? id with
    | some e => (.telling e.mailbox left, s.removeEntry id)
    | none => (.failing left, s)
  | .telling ref left =>
    (.failing left, s.onMailbox ref (.close (.failed (CallError.connectionClosed reason).duplicate)))
  | .finished => (.finished, s)

/-- It comes upon an id. -/
def find (id : RequestId) (c : Closer) (s : Session) : Closer :=
  match c with
  | .collecting owed found =>
    if s.isOutstanding id then .collecting owed (found ++ [id]) else .collecting owed found
  | c => c

end Closer

/-- Callers that send, and one close. -/
structure Overlap where
  session : Session
  senders : Keyed RequestId Sender
  reason : CloseReason
  closer : Closer

/-- A step of one of them. -/
inductive Act where
  | send (id : RequestId)
  | close
  /-- The close comes upon an id in the table. -/
  | find (id : RequestId)
  /-- The writer notices that the session is closed. -/
  | leaveOutput

namespace Overlap

/-- All are still to begin. -/
def begin (s : Session) (wanted : Keyed RequestId Wanted) (reason : CloseReason) : Overlap where
  session := s
  senders := wanted.map fun e => (e.1, ⟨e.2, .starting⟩)
  reason := reason
  closer := .waiting

/-- How far the caller of a request is. -/
def stage? (o : Overlap) (id : RequestId) : Option Stage :=
  (o.senders.get? id).map Sender.stage

def step (o : Overlap) (a : Act) : Overlap :=
  match a with
  | .send id =>
    match o.senders.get? id with
    | some w =>
      let (stage, s) := w.advance id o.session
      { o with session := s, senders := o.senders.modify id fun w => { w with stage := stage } }
    | none => o
  | .close =>
    let (closer, s) := o.closer.advance o.reason o.session
    { o with session := s, closer := closer }
  | .find id => { o with closer := o.closer.find id o.session }
  | .leaveOutput => { o with session := o.session.leaveOutput }

def run (acts : List Act) (o : Overlap) : Overlap := acts.foldl step o

/-- All are done. -/
structure Finished (o : Overlap) : Prop where
  closed : o.closer = .finished
  returned : ∀ id stage, o.stage? id = some stage → ∃ result, stage = .returned result

end Overlap

end Backchannel
