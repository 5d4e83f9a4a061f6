/-
# Backchannel.Plugin.Action -- what plugin, daemon and clock can do

`Action` lists every move; `Plugin.act` makes one and lets everything settle.  A
move that waits lets time pass until it has a result or its wait is over; any other
move takes no time, but for the two that move the clock.
-/
import Backchannel.Plugin.Basic
import Backchannel.Text.Utf8

namespace Backchannel

set_option autoImplicit false

open Backchannel.Json (Decoder Value)
open Backchannel.Text.Utf8 (Bytes bytesOf)

/-- What the plugin, through its code, can do. -/
inductive PluginMove where
  | send (id : RequestId) (sessionId : Option String) (kind : Kind) (payload : Value)
  /-- Opens a typed stream. -/
  | invoke (id : RequestId) (sessionId : Option String) (kind : Kind) (payload : Value)
      (shape : Decoder Value)
  /-- Starts a call for one result. -/
  | start (id : RequestId) (sessionId : Option String) (job : Job)
  /-- Makes a model. -/
  | addModel (name : ModelName) (sessionId : Option String)
  /-- Opens the stream of a completion by a model. -/
  | stream (id : RequestId) (model : ModelName) (request : Completion.Request)
  /-- Pulls from a subscription. -/
  | recv (id : RequestId) (wait : Duration)
  /-- Pulls from a typed stream. -/
  | next (id : RequestId) (wait : Duration)
  /-- Takes all elements of a typed stream, and the stream with them. -/
  | takeAll (id : RequestId) (wait : Duration)
  /-- Takes the answer of a call. -/
  | join (id : RequestId) (wait : Duration)
  /-- Lets go of a subscription or of a stream. -/
  | drop (id : RequestId)
  /-- Aborts a call. -/
  | cancel (id : RequestId)
  | heartbeat
  | close
  /-- Waits for the session to be closed. -/
  | closed (wait : Duration)
  | dropInbound

/-- What the daemon can do. -/
inductive DaemonMove where
  /-- Writes some bytes. -/
  | write (bytes : Bytes)
  | hangUp
  | stopReading

/-- What the clock can do. -/
inductive ClockMove where
  /-- Time passes, and every timer fires at its moment. -/
  | advance (span : Duration)
  /-- The clock moves at once; what is overdue fires afterwards. -/
  | jump (span : Duration)

inductive Action where
  | plugin (move : PluginMove)
  | daemon (move : DaemonMove)
  | clock (move : ClockMove)

/-- What a move answers. -/
inductive Outcome where
  | ok
  | started
  | dropped
  | cancelled
  /-- Nothing of that name is there. -/
  | gone
  /-- Nothing came within the wait. -/
  | pending
  | refused (e : CallError)
  | pulled (p : Pulled Value)
  /-- A pull from a timed stream, and whether its timer still runs. -/
  | timed (p : Pulled Value) (running : Bool)
  | elements (all : List (Except CallError Value))
  | answered (answer : Except CallError Answer)
  | closed (reason : CloseReason)

namespace Plugin

/-- A plugin that has just been started, and has settled. -/
def launch (settings : Settings) : Plugin :=
  ({ session := .start settings, held := [], models := [], timing := .empty } : Plugin).moveTo 0

/-- The answer to a request. -/
def accepted : Except CallError Unit × Plugin → Outcome × Plugin
  | (.ok (), p) => (.ok, p)
  | (.error e, p) => (.refused e, p)

/-- What came in time. -/
def inTime : Option Outcome × Plugin → Outcome × Plugin
  | (some o, p) => (o, p)
  | (none, p) => (.pending, p)

/-- One pull for a waiting caller. -/
def lookPull (pull : Plugin → Pulled Value × Plugin) (_ : Unit) (p : Plugin) :
    Look Unit (Pulled Value) × Plugin :=
  match pull p with
  | (.pending, p) => (.waiting (), p)
  | (got, p) => (.done got, p)

/-- All that is there, after what was there before. -/
def lookAll (id : RequestId) (sofar : List (Except CallError Value)) (p : Plugin) :
    Look (List (Except CallError Value)) (List (Except CallError Value)) × Plugin :=
  match p.held.get? id with
  | some (.stream s timed) =>
    let (got, ended, p) := p.pullAll id s timed
    (if ended then .done (sofar ++ got) else .waiting (sofar ++ got), p)
  | _ => (.done sofar, p)

/-- The answer of a call, which goes with it. -/
def lookAnswer (id : RequestId) (_ : Unit) (p : Plugin) :
    Look Unit (Except CallError Answer) × Plugin :=
  match p.held.get? id with
  | some (.answered answer) => (.done answer, { p with held := p.held.erase id })
  | _ => (.waiting (), p)

def lookClosed (_ : Unit) (p : Plugin) : Look Unit CloseReason × Plugin :=
  match p.session.status with
  | .closed reason => (.done reason, p)
  | .opened => (.waiting (), p)

/-- Pulls from the stream that is held under an id. -/
def pullHeld (id : RequestId) (p : Plugin) : Pulled Value × Plugin :=
  match p.held.get? id with
  | some (.stream s timed) => p.pull id s timed
  | _ => (.finished, p)

/-- Pulls from a subscription. -/
def recv (id : RequestId) (p : Plugin) : Pulled Value × Plugin :=
  let (got, session) := p.session.recv id
  (got, { p with session := session })

def actPlugin (move : PluginMove) (p : Plugin) : Outcome × Plugin :=
  match move with
  | .send id sessionId kind payload =>
    accepted (p.request id sessionId kind payload .subscription)
  | .invoke id sessionId kind payload shape =>
    accepted (p.request id sessionId kind payload (.stream (.ofRequest id shape) false))
  | .start id sessionId job => (.started, p.start id sessionId job)
  | .addModel name sessionId => (.ok, p.addModel name sessionId)
  | .stream id model request =>
    let shape := Completion.Chunk.decoder.map Completion.Chunk.toJson
    accepted (p.requestTimed id model .llm (request.payload true)
      (.stream (.ofRequest id shape) true))
  | .recv id wait =>
    match p.held.get? id with
    | some .subscription =>
      let (got, p) := p.awaitFor wait (lookPull (recv id)) ()
      inTime (got.map .pulled, p)
    | _ => (.gone, p)
  | .next id wait =>
    match p.held.get? id with
    | some (.stream _ false) =>
      let (got, p) := p.awaitFor wait (lookPull (pullHeld id)) ()
      inTime (got.map .pulled, p)
    | some (.stream _ true) =>
      let (got, p) := p.awaitFor wait (lookPull (pullHeld id)) ()
      (.timed (got.getD .pending) (p.timing.guards.contains id), p)
    | _ => (.gone, p)
  | .takeAll id wait =>
    match p.held.get? id with
    | some (.stream _ _) =>
      let (got, p) := p.awaitFor wait (lookAll id) []
      inTime (got.map .elements, p.release id)
    | _ => (.gone, p)
  | .join id wait =>
    match p.held.get? id with
    | some (.running _) | some (.answered _) =>
      let (got, p) := p.awaitFor wait (lookAnswer id) ()
      inTime (got.map .answered, p)
    | _ => (.gone, p)
  | .drop id =>
    match p.held.get? id with
    | some .subscription | some (.stream _ _) => (.dropped, p.release id)
    | _ => (.gone, p)
  | .cancel id =>
    match p.held.get? id with
    | some (.running _) | some (.answered _) => (.cancelled, p.release id)
    | _ => (.gone, p)
  | .heartbeat =>
    let (result, session) := p.session.heartbeat
    accepted (result, { p with session := session })
  | .close => (.ok, p.onSession Session.close)
  | .closed wait =>
    let (got, p) := p.awaitFor wait lookClosed ()
    inTime (got.map .closed, p)
  | .dropInbound => (.ok, p.onSession Session.dropInbound)

/-- The greatest piece that the daemon's pipe holds. -/
def pipeCapacity : Nat := 65536

/-- The daemon writes: piece by piece as the pipe has room, and everything settles
in between. -/
def deliver : Nat → Bytes → Plugin → Plugin
  | 0, _, p => p
  | fuel + 1, bytes, p =>
    if bytes.isEmpty then p
    else
      deliver fuel (bytes.drop pipeCapacity)
        (p.onSession (Session.readBytes (bytes.take pipeCapacity))).settle

def actDaemon (move : DaemonMove) (p : Plugin) : Plugin :=
  match move with
  | .write bytes => deliver (bytes.length / pipeCapacity + 1) bytes p
  | .hangUp => p.onSession Session.endInput
  | .stopReading => p.onSession Session.endOutput

def actClock (move : ClockMove) (p : Plugin) : Plugin :=
  match move with
  | .advance span =>
    (p.awaitFor span (fun (_ : Unit) p => (Look.waiting (), p)) () : Option Empty × Plugin).2
  | .jump span => p.moveTo (p.now + span)

/-- Makes a move and lets everything settle. -/
def act (action : Action) (p : Plugin) : Outcome × Plugin :=
  let (outcome, p) :=
    match action with
    | .plugin move => p.actPlugin move
    | .daemon move => (.ok, p.actDaemon move)
    | .clock move => (.ok, p.actClock move)
  (outcome, p.settle)

/-- A plugin after some actions. -/
def acts (actions : List Action) (p : Plugin) : Plugin :=
  actions.foldl (fun p action => (p.act action).2) p

end Plugin

end Backchannel
