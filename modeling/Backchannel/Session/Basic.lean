/-
# Backchannel.Session.Basic -- many requests over one connection

A session carries the requests of a plugin over one pair of byte streams.  Each
request that awaits its terminal response has an entry in `table`; its caller holds
a subscription.  Both go by the id of the request, and both refer to one mailbox,
which the session fills and the caller empties.

An entry is there before the line of its request is handed to the writer, so no
response can outrun its subscriber.  It goes when the request is resolved: by a
terminal response, a malformed one, its deadline, the close of the session, or the
caller who is done with it.

Closing is final: the first reason stands, every entry is failed with it, and no
request or heartbeat is taken any more.
-/
import Backchannel.Keyed
import Backchannel.Mailbox

namespace Backchannel

set_option autoImplicit false

open Backchannel.Json (Value Mismatch)
open Backchannel.Text.Utf8 (Bytes)

structure Settings where
  /-- How long a request may take to its terminal response. -/
  requestTimeout : Duration
  /-- The time between two heartbeats, if there are any. -/
  heartbeatEvery : Option Duration
  /-- How many items wait for one caller before the oldest is dropped. -/
  queueCapacity : Nat
  deriving DecidableEq, Repr

namespace Settings

def defaultTimeout : Duration := Duration.ofSeconds 300

def defaultHeartbeat : Duration := Duration.ofSeconds 10

def defaultCapacity : Nat := 64

end Settings

inductive Status where
  | opened
  | closed (reason : CloseReason)
  deriving DecidableEq, Repr

def Status.isClosed : Status → Bool
  | .opened => false
  | .closed _ => true

/-- A request that awaits its terminal response. -/
structure Entry where
  kind : Kind
  /-- Where its responses go. -/
  mailbox : MailboxRef
  createdAt : Instant
  deadline : Instant
  deriving DecidableEq, Repr

/-- The caller's end of a request. -/
structure Subscription where
  kind : Kind
  /-- Where its caller pulls from. -/
  mailbox : MailboxRef
  deadline : Instant
  /-- The wait that the deadline comes from. -/
  timeout : Duration
  /-- An end or an error was pulled. -/
  done : Bool
  deriving DecidableEq, Repr

structure Session where
  settings : Settings
  now : Instant
  status : Status
  table : Keyed RequestId Entry
  subscriptions : Keyed RequestId Subscription
  /-- The mailboxes of all requests so far.  One that nobody refers to any more stays. -/
  mailboxes : List Mailbox
  /-- Lines that wait for the writer. -/
  outbox : List String
  /-- Lines that the daemon got, in order. -/
  written : List String
  /-- The daemon takes what is written. -/
  accepting : Bool
  /-- The writer has not stopped. -/
  writing : Bool
  /-- The reader has not stopped. -/
  reading : Bool
  /-- The bytes of the line that is being read, last byte first. -/
  unread : Bytes
  /-- Requests of the daemon, in order. -/
  inbound : List InboundFrame
  /-- Someone takes the requests of the daemon. -/
  listening : Bool
  /-- When expired entries are looked for next. -/
  sweepAt : Instant
  /-- When the next heartbeat is due, if there is to be one. -/
  beatAt : Option Instant

namespace Session

/-- A session that has just been started, before anything has happened. -/
def start (settings : Settings) : Session where
  settings := settings
  now := 0
  status := .opened
  table := []
  subscriptions := []
  mailboxes := []
  outbox := []
  written := []
  accepting := true
  writing := true
  reading := true
  unread := []
  inbound := []
  listening := true
  sweepAt := 0
  -- A timer without an interval does not run.
  beatAt := (settings.heartbeatEvery.filter (0 < ·)).map (deadlineAfter 0)

/-- How many requests await their terminal response. -/
def outstanding (s : Session) : Nat := s.table.length

def isOutstanding (s : Session) (id : RequestId) : Bool := s.table.contains id

/-! ## Entries and mailboxes -/

/-- The mailbox that the caller of a request pulls from. -/
def mailboxOf? (s : Session) (id : RequestId) : Option Mailbox :=
  (s.subscriptions.get? id).bind fun sub => s.mailboxes[sub.mailbox]?

/-- Changes one mailbox. -/
def onMailbox (ref : MailboxRef) (f : Mailbox → Mailbox) (s : Session) : Session :=
  { s with mailboxes := s.mailboxes.modify ref f }

/-- Removes the entry of a request. -/
def removeEntry (id : RequestId) (s : Session) : Session :=
  { s with table := s.table.erase id }

/-- Fails a request that is outstanding, and removes its entry. -/
def fail (id : RequestId) (e : CallError) (s : Session) : Session :=
  match s.table.get? id with
  | some entry => (s.removeEntry id).onMailbox entry.mailbox (.close (.failed e))
  | none => s

/-- What became of a response. -/
inductive Routed where
  | delivered
  /-- It was the last one of its request. -/
  | completed
  /-- No request of that id is outstanding. -/
  | orphaned
  deriving DecidableEq, Repr

/-- Hands a response to the caller of its request. -/
def route (r : Response) (s : Session) : Routed × Session :=
  match s.table.get? r.id with
  | none => (.orphaned, s)
  | some entry =>
    match r.reply with
    | .item v => (.delivered, s.onMailbox entry.mailbox (.push v))
    | .finish =>
      (.completed, (s.onMailbox entry.mailbox (.close .finished)).removeEntry r.id)
    | .failed message =>
      (.completed, (s.onMailbox entry.mailbox (.close (.failed (.application message)))).removeEntry
        r.id)

/-- The requests whose deadline has passed. -/
def expired (s : Session) : Keyed RequestId Entry :=
  s.table.filter fun e => e.2.deadline ≤ s.now

/-- Fails a request if its deadline has passed, and tells whether it has.  The error names the
wait that led to the deadline. -/
def expire (id : RequestId) (s : Session) : Bool × Session :=
  match (s.table.get? id).filter fun e => e.deadline ≤ s.now with
  | some e => (true, s.fail id (.timeout id (e.deadline - e.createdAt)))
  | none => (false, s)

/-- Fails every request whose deadline has passed, and counts them.  Each is looked at again
when its turn comes. -/
def sweepExpired (s : Session) : Nat × Session :=
  s.expired.keys.foldl
    (fun swept id =>
      let (gone, s) := swept.2.expire id
      (swept.1 + gone.toNat, s))
    (0, s)

/-- Fails every request whose deadline has passed. -/
def sweep (s : Session) : Session := s.sweepExpired.2

/-! ## Closing -/

/-- Fails every outstanding request. -/
def failAll (e : CallError) (s : Session) : Session :=
  s.table.keys.foldl (fun s id => s.fail id e.duplicate) s

/-- Closes the session.  Only the first call has an effect. -/
def shutDown (reason : CloseReason) (s : Session) : Session :=
  match s.status with
  | .closed _ => s
  | .opened => { s with status := .closed reason }.failAll (.connectionClosed reason)

/-- The explicit close by the plugin. -/
def close (s : Session) : Session := s.shutDown .byPlugin

/-- What a caller is told whom the session refuses. -/
def refusal (s : Session) : CallError :=
  match s.status with
  | .closed reason => .connectionClosed reason
  | .opened => .connectionClosed .shuttingDown

/-! ## Sending -/

/-- Hands a line to the writer. -/
def enqueue (line : String) (s : Session) : Except CallError Unit × Session :=
  if s.writing then (.ok (), { s with outbox := s.outbox ++ [line] })
  else
    let s := s.shutDown .writerStopped
    (.error s.refusal, s)

/-- Queues one heartbeat. -/
def heartbeat (s : Session) : Except CallError Unit × Session :=
  if s.status.isClosed then (.error s.refusal, s)
  else s.enqueue OutboundFrame.heartbeat.toLine

/-- Makes the entry of a request and the caller's end of it, over a new mailbox. -/
def register (id : RequestId) (kind : Kind) (s : Session) : Session :=
  let timeout := s.settings.requestTimeout
  let deadline := deadlineAfter s.now timeout
  let ref := s.mailboxes.length
  { s with
    table := s.table.insert id ⟨kind, ref, s.now, deadline⟩
    subscriptions := s.subscriptions.insert id ⟨kind, ref, deadline, timeout, false⟩
    mailboxes := s.mailboxes ++ [.empty id s.settings.queueCapacity] }

/-- The caller lets go of a request.  Later responses to it find no entry. -/
def drop (id : RequestId) (s : Session) : Session :=
  { s.removeEntry id with subscriptions := s.subscriptions.erase id }

/-- Makes a request under a fresh id.  After a success the caller holds the
subscription of that id. -/
def send (id : RequestId) (sessionId : Option String) (kind : Kind) (payload : Value)
    (s : Session) : Except CallError Unit × Session :=
  if s.status.isClosed then (.error s.refusal, s)
  else
    let line := (OutboundFrame.invoke sessionId ⟨kind, id, payload⟩).toLine
    let s := s.register id kind
    -- A close that drained the table before the entry was there shows here.
    if s.status.isClosed then (.error s.refusal, s.drop id)
    else
      match s.enqueue line with
      | (.ok (), s) => (.ok (), s)
      | (.error e, s) => (.error e, s.drop id)

/-! ## Receiving -/

/-- The caller is done with a request. -/
def conclude (id : RequestId) (s : Session) : Session :=
  { s.removeEntry id with subscriptions := s.subscriptions.modify id fun sub =>
      { sub with done := true } }

/-- The caller's pull.  What waits in the mailbox comes before the deadline is
looked at; after an end or an error there is only the end.  The deadline passes at its
very moment; a runtime may round it up to the next whole millisecond. -/
def recv (id : RequestId) (s : Session) : Pulled Value × Session :=
  match s.subscriptions.get? id, s.mailboxOf? id with
  | some sub, some box =>
    if sub.done then (.finished, s)
    else
      let (got, box) := box.take
      let s := s.onMailbox sub.mailbox fun _ => box
      match got with
      | .item v => (.item v, s)
      | .finished => (.finished, s.conclude id)
      | .failed e => (.failed e, s.conclude id)
      | .pending =>
        if sub.deadline ≤ s.now then (.failed (.timeout id sub.timeout), s.conclude id)
        else (.pending, s)
  | _, _ => (.finished, s)

/-- The plugin no longer takes requests of the daemon. -/
def dropInbound (s : Session) : Session := { s with listening := false }

end Session

end Backchannel
