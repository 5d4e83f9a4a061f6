/-
# Backchannel.Plugin.Run -- a plugin in the smallest steps

`Plugin.act` lets everything settle behind each action.  Here nothing does: a call starts, its
task is polled or cancelled, a stream is pulled from or let go, anything happens to the session
(`Op`), in whatever order.
-/
import Backchannel.Plugin.Action
import Backchannel.Session.Run

namespace Backchannel.Plugin

set_option autoImplicit false

open Backchannel.Json (Decoder Value)

inductive Op where
  /-- Anything that happens to the session: replies, errors, deadlines, a close. -/
  | session (m : Session.Move)
  | addModel (name : ModelName) (sessionId : Option String)
  | send (id : RequestId) (sessionId : Option String) (kind : Kind) (payload : Value)
  /-- A typed stream is opened. -/
  | invoke (id : RequestId) (sessionId : Option String) (kind : Kind) (payload : Value)
    (shape : Decoder Value)
  /-- The task of a call for one result begins. -/
  | start (id : RequestId) (sessionId : Option String) (job : Job)
  /-- The stream of a completion is opened. -/
  | stream (id : RequestId) (model : ModelName) (request : Completion.Request)
  /-- The task of a call is polled. -/
  | look (id : RequestId)
  /-- The next element of a stream is asked for. -/
  | next (id : RequestId)
  /-- All elements that are there are taken from a stream. -/
  | drain (id : RequestId)
  /-- A subscription or a stream is let go. -/
  | drop (id : RequestId)
  /-- The task of a call is cancelled, wherever it waits. -/
  | cancel (id : RequestId)
  /-- The answer of a call is taken. -/
  | join (id : RequestId)

/-- What a step answers. -/
inductive Report where
  | done
  /-- Nothing of that id is there. -/
  | gone
  | made (result : Except CallError Unit)
  | looked (answer : Option (Except CallError Answer))
  | pulled (got : Pulled Value)
  | drained (elements : List (Except CallError Value)) (ended : Bool)

/-- What the task of a call comes to in its beginning. -/
def startResult (id : RequestId) (sessionId : Option String) (job : Job) (p : Plugin) :
    Except CallError Unit :=
  match job with
  | .first kind _ payload => (p.request id sessionId kind payload (.running job)).1
  | .storage op => (p.request id sessionId .storage op.payload (.running job)).1
  | .completion model r => (p.requestTimed id model .llm (r.payload false) (.running job)).1

def chunkShape : Decoder Value := Completion.Chunk.decoder.map Completion.Chunk.toJson

def perform (op : Op) (p : Plugin) : Report × Plugin :=
  match op with
  | .session m => (.done, p.onSession fun s => s.step m)
  | .addModel name sessionId => (.done, p.addModel name sessionId)
  | .send id sessionId kind payload =>
    let (result, p) := p.request id sessionId kind payload .subscription
    (.made result, p)
  | .invoke id sessionId kind payload shape =>
    let (result, p) := p.request id sessionId kind payload (.stream (.ofRequest id shape) false)
    (.made result, p)
  | .start id sessionId job => (.made (p.startResult id sessionId job), p.start id sessionId job)
  | .stream id model request =>
    let (result, p) := p.requestTimed id model .llm (request.payload true)
      (.stream (.ofRequest id chunkShape) true)
    (.made result, p)
  | .look id =>
    match p.held.get? id with
    | some (.running job) =>
      (.looked (job.conclude id (p.session.recv id).1), p.look (id, .running job))
    | _ => (.gone, p)
  | .next id =>
    match p.held.get? id with
    | some (.stream s timed) =>
      let (got, p) := p.pull id s timed
      (.pulled got, p)
    | _ => (.gone, p)
  | .drain id =>
    match p.held.get? id with
    | some (.stream s timed) =>
      let (got, ended, p) := p.pullAll id s timed
      (.drained got ended, p)
    | _ => (.gone, p)
  | .drop id =>
    match p.held.get? id with
    | some .subscription | some (.stream _ _) => (.done, p.release id)
    | _ => (.gone, p)
  | .cancel id =>
    match p.held.get? id with
    | some (.running _) | some (.answered _) => (.done, p.release id)
    | _ => (.gone, p)
  | .join id =>
    match p.held.get? id with
    | some (.answered _) => (.done, { p with held := p.held.erase id })
    | _ => (.gone, p)

/-- The plugin after a step. -/
def step (p : Plugin) (op : Op) : Plugin := (p.perform op).2

/-- The plugin after a run. -/
def run (ops : List Op) (p : Plugin) : Plugin := ops.foldl step p

/-- A plugin that has done nothing. -/
def idle (settings : Settings) : Plugin := ⟨.start settings, [], [], .empty⟩

/-- A step and the plugin that it finds. -/
structure Step where
  before : Plugin
  op : Op

/-- A run, step by step. -/
def steps : List Op → Plugin → List Step
  | [], _ => []
  | op :: ops, p => ⟨p, op⟩ :: steps ops (p.step op)

def Step.report (st : Step) : Report := (st.before.perform st.op).1

end Backchannel.Plugin
