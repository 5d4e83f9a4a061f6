/-
# Backchannel.Plugin.Basic -- a plugin at work

A plugin makes requests over its session and holds what they give it: raw
subscriptions, typed streams, and calls for one result that run by themselves.  All
go by the id of their request.

A model is an object whose completions are timed, one at a time.  The guard of a
completion goes by the id of its request.
-/
import Backchannel.Completion.Request
import Backchannel.Session.Clock
import Backchannel.Storage
import Backchannel.Stream
import Backchannel.Timing

namespace Backchannel

set_option autoImplicit false

open Backchannel.Json (Decoder Value)

abbrev ModelName := String

/-- A call for one result. -/
inductive Job where
  /-- The first element in that shape. -/
  | first (kind : Kind) (shape : Decoder Value) (payload : Value)
  | storage (op : Storage.Operation)
  /-- A completion by that model that is not streamed. -/
  | completion (model : ModelName) (request : Completion.Request)

/-- What a call for one result comes to. -/
inductive Answer where
  /-- The first element, if there was any. -/
  | first (element : Option Value)
  | stored (answer : Storage.Answer)
  | completion (result : Completion.Result)

/-- What a call comes to, given the first raw pull. -/
def Job.conclude (id : RequestId) (job : Job) (raw : Pulled Value) :
    Option (Except CallError Answer) :=
  match job with
  | .first _ shape _ => (Stream.single id shape raw).map fun r => r.map .first
  | .storage op =>
    (Stream.single id Storage.replyDecoder raw).map fun r => (op.conclude r).map .stored
  | .completion _ _ =>
    (Stream.single id Completion.Result.decoder raw).map fun r =>
      match r with
      | .ok (some result) => .ok (.completion result)
      | .ok none => .error (.noResponse .llm)
      | .error e => .error e

/-- What a plugin holds of a request. -/
inductive Held where
  | subscription
  /-- A typed stream.  One that a model made is timed. -/
  | stream (s : Stream Value) (timed : Bool)
  /-- A call that has not come to its end. -/
  | running (job : Job)
  /-- A call that has. -/
  | answered (answer : Except CallError Answer)

structure Plugin where
  session : Session
  held : Keyed RequestId Held
  /-- The models, each with the plugin session on whose behalf it asks. -/
  models : Keyed ModelName (Option String)
  timing : Timing String

namespace Plugin

def now (p : Plugin) : Instant := p.session.now

/-- Changes the session. -/
def onSession (f : Session → Session) (p : Plugin) : Plugin := { p with session := f p.session }

def hold (id : RequestId) (h : Held) (p : Plugin) : Plugin := { p with held := p.held.insert id h }

/-- Lets go of all that is held of a request: its subscription, its guard, and
what goes by its id. -/
def release (id : RequestId) (p : Plugin) : Plugin :=
  { p with
    session := p.session.drop id
    held := p.held.erase id
    timing := p.timing.release id }

/-! ## Requests -/

/-- Makes a request and holds `h` of it. -/
def request (id : RequestId) (sessionId : Option String) (kind : Kind) (payload : Value)
    (h : Held) (p : Plugin) : Except CallError Unit × Plugin :=
  let (result, session) := p.session.send id sessionId kind payload
  let p := { p with session := session }
  match result with
  | .ok () => (.ok (), p.hold id h)
  | .error e => (.error e, p)

/-- Makes a request of a model, under a guard. -/
def requestTimed (id : RequestId) (model : ModelName) (kind : Kind) (payload : Value)
    (h : Held) (p : Plugin) : Except CallError Unit × Plugin :=
  match p.timing.enter id model p.now with
  | .error e => (.error e, p)
  | .ok timing =>
    let sessionId := (p.models.get? model).getD none
    match { p with timing := timing }.request id sessionId kind payload h with
    | (.ok (), p) => (.ok (), p)
    | (.error e, p) => (.error e, { p with timing := p.timing.release id })

/-- A model of that name, idle. -/
def addModel (name : ModelName) (sessionId : Option String) (p : Plugin) : Plugin :=
  { p with
    models := p.models.insert name sessionId
    timing := p.timing.create name }

/-! ## Calls for one result -/

/-- Starts a call.  One that cannot even start is answered at once. -/
def start (id : RequestId) (sessionId : Option String) (job : Job) (p : Plugin) : Plugin :=
  let (result, p) :=
    match job with
    | .first kind _ payload => p.request id sessionId kind payload (.running job)
    | .storage op => p.request id sessionId .storage op.payload (.running job)
    | .completion model r => p.requestTimed id model .llm (r.payload false) (.running job)
  match result with
  | .ok () => p
  | .error e => p.hold id (.answered (.error e))

/-- Looks after one call: with its first reply it ends. -/
def look (p : Plugin) (entry : RequestId × Held) : Plugin :=
  match entry.2 with
  | .running job =>
    let (raw, session) := p.session.recv entry.1
    let p := { p with session := session }
    match job.conclude entry.1 raw with
    | none => p
    | some answer => (p.release entry.1).hold entry.1 (.answered answer)
  | _ => p

/-- Looks after all calls. -/
def lookAfterCalls (p : Plugin) : Plugin := p.held.foldl look p

/-- All that can happen without time passing. -/
def settle (p : Plugin) : Plugin := (p.onSession Session.settle).lookAfterCalls

/-! ## Streams -/

/-- The next element of a typed stream.  A timed one stops its timer at its end. -/
def pull (id : RequestId) (s : Stream Value) (timed : Bool) (p : Plugin) :
    Pulled Value × Plugin :=
  let (got, s, session) := s.next (Session.recv id) p.session
  let p := { p with session := session }.hold id (.stream s timed)
  (got, if got.isOver then { p with timing := p.timing.release id } else p)

/-- All elements of a typed stream that are there. -/
def pullAll (id : RequestId) (s : Stream Value) (timed : Bool) (p : Plugin) :
    List (Except CallError Value) × Bool × Plugin :=
  let waiting := ((p.session.mailboxOf? id).map fun box => box.items.length).getD 0
  let (got, ended, s, session) := s.drain (Session.recv id) (waiting + 2) p.session
  let p := { p with session := session }.hold id (.stream s timed)
  (got, ended, if ended then { p with timing := p.timing.release id } else p)

/-! ## Time -/

/-- Fires what is due, and lets everything settle.  A call whose deadline has passed is
answered before the writer writes. -/
def fire (p : Plugin) : Plugin := ((p.onSession Session.ring).lookAfterCalls).settle

/-- Sets the clock and nothing else. -/
def setClock (t : Instant) (p : Plugin) : Plugin := p.onSession fun s => { s with now := t }

/-- Sets the clock and fires what is due. -/
def moveTo (t : Instant) (p : Plugin) : Plugin := (p.setClock t).fire

/-- What a look at something awaited brings: its result, or what is known so far. -/
inductive Look (σ β : Type) where
  | done (result : β)
  | waiting (sofar : σ)

/-- Waits until `look` brings a result, or until `target`.  Each moment at which
something is due is stopped at; `fuel` bounds their number.  At each the caller looks
first, for its own deadline, and gives up at `target`; only then fires what else is
due, and the caller looks again. -/
def await {σ β : Type} (look : σ → Plugin → Look σ β × Plugin) (target : Instant) :
    Nat → σ → Plugin → Option β × Plugin
  | 0, _, p => (none, p)
  | fuel + 1, sofar, p =>
    match look sofar (p.setClock (p.session.nextStop target)) with
    | (.done result, p) => (some result, p.fire)
    | (.waiting sofar, p) =>
      if target ≤ p.now then (none, p.fire)
      else
        match look sofar p.fire with
        | (.done result, p) => (some result, p)
        | (.waiting sofar, p) => await look target fuel sofar p

/-- Waits for a result, but no longer than `wait`. -/
def awaitFor {σ β : Type} (wait : Duration) (look : σ → Plugin → Look σ β × Plugin)
    (sofar : σ) (p : Plugin) : Option β × Plugin :=
  match look sofar p with
  | (.done result, p) => (some result, p)
  | (.waiting sofar, p) => await look (p.now + wait) wait sofar p

end Plugin

end Backchannel
