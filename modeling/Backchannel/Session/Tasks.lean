/-
# Backchannel.Session.Tasks -- reader and writer as tasks

Two tasks work a session.  Each is made when the session starts, but the first poll of a
task may come at any moment after that, and only then does it begin to watch the status.
Who begins to watch takes the status as it finds it for known, so what has changed before
is no news to it.

`Tasks` is a session with how far its two tasks are and what waits for them outside.  An
`Act` is what the plugin, the daemon or the clock does, or one poll of a task; a poll that
has nothing to do changes nothing.  Whenever a task could go on in several ways, any of them
is a poll of its own.  A list of acts is one order of all that happens.
-/
import Backchannel.Session.Run

namespace Backchannel

set_option autoImplicit false

open Backchannel.Text.Utf8 (Bytes)

namespace Tasks

inductive Task where
  | reader
  | writer

/-- How far a task is. -/
inductive Phase where
  /-- It was never polled. -/
  | fresh
  /-- It waits in its loop, and knows of that many changes of the status. -/
  | looping (seen : Nat)
  /-- It is in the middle of a line, where it does not look at the status. -/
  | writing (seen : Nat)
  | left

/-- How the stream from the daemon ends. -/
inductive Ending where
  | hungUp
  | broken (why : String)

/-- What becomes of a line that the daemon is handed. -/
inductive Outlet where
  | taking
  /-- The line has to wait. -/
  | stalled
  | writeFails (why : String)
  | flushFails (why : String)

/-- What a task does when it is polled. -/
inductive Poll where
  /-- It is polled for the first time, and begins to watch the status. -/
  | start (k : Task)
  /-- It learns that the status has changed. -/
  | wake (k : Task)
  | byte
  /-- What is left of a line at the end of the stream is read. -/
  | tail
  | ending
  | sweep
  /-- The writer takes the line that has waited longest. -/
  | line
  /-- It is rid of that line, or fails over it. -/
  | handOver
  /-- The writer, having left its loop, shuts its end of the transport down. -/
  | shutDown

inductive Act where
  /-- The plugin or the clock makes a move. -/
  | outside (m : Session.Move)
  | arrive (bytes : Bytes)
  | finish (e : Ending)
  | outlet (o : Outlet)
  | poll (p : Poll)

end Tasks

structure Tasks where
  session : Session
  /-- How often the status has changed. -/
  changes : Nat
  reader : Tasks.Phase
  writer : Tasks.Phase
  /-- What has arrived and was not read. -/
  incoming : Bytes
  /-- How the stream ends behind that, if it does. -/
  ending : Option Tasks.Ending
  outlet : Tasks.Outlet
  /-- The writer's end of the transport was shut down. -/
  shut : Bool

/-- Neither of the two tasks makes such a move. -/
def Session.Move.isOutside : Session.Move → Bool
  | .send _ _ _ _ | .recv _ | .drop _ | .heartbeat | .close | .dropInbound | .pass _ => true
  | _ => false

namespace Tasks

/-- A session that has just been started. -/
def spawn (settings : Settings) : Tasks where
  session := .start settings
  changes := 0
  reader := .fresh
  writer := .fresh
  incoming := []
  ending := none
  outlet := .taking
  shut := false

def phase (t : Tasks) : Task → Phase
  | .reader => t.reader
  | .writer => t.writer

def enter (k : Task) (p : Phase) (t : Tasks) : Tasks :=
  match k with
  | .reader => { t with reader := p }
  | .writer => { t with writer := p }

/-- Moves of the session.  If they change the status, it is one change more. -/
def perform (ms : List Session.Move) (t : Tasks) : Tasks :=
  { t with
    session := Session.run ms t.session
    changes :=
      if t.session.status.isClosed = (Session.run ms t.session).status.isClosed then t.changes
      else t.changes + 1 }

/-- What comes before the loop of a task: the first sweep is due at once. -/
def Task.prelude (k : Task) (s : Session) : List Session.Move :=
  match k with
  | .reader => [.timers s.now s.beatAt]
  | .writer => []

/-- How a task leaves its loop because of a close. -/
def Task.leave : Task → Session.Move
  | .reader => .leaveInput
  | .writer => .leaveOutput

def Ending.moves : Ending → List Session.Move
  | .hungUp => [.tail, .endOfStream]
  | .broken why => [.readError why]

/-- A sweep, and when the next one is due. -/
def sweeping (s : Session) : List Session.Move :=
  [.sweep, .timers (Session.nextFiring s.sweepAt s.now s.sweepPeriod) s.beatAt]

/-- The state after a poll, if there is something to do. -/
def poll (p : Poll) (t : Tasks) : Option Tasks :=
  match p with
  | .start k =>
    match t.phase k with
    -- What has changed by now is no news to it.
    | .fresh => some ((t.perform (k.prelude t.session)).enter k (.looping t.changes))
    | _ => none
  | .wake k =>
    match t.phase k with
    | .looping seen =>
      if seen = t.changes then none
      else if t.session.status.isClosed then some ((t.perform [k.leave]).enter k .left)
      else some (t.enter k (.looping t.changes))
    | _ => none
  | .byte =>
    match t.reader, t.incoming with
    | .looping _, b :: rest => some ({ t with incoming := rest }.perform [.byte b])
    | _, _ => none
  | .tail =>
    match t.reader, t.incoming, t.ending with
    | .looping _, [], some .hungUp =>
      if t.session.unread.isEmpty then none else some (t.perform [.tail])
    | _, _, _ => none
  | .ending =>
    match t.reader, t.incoming, t.ending with
    | .looping _, [], some e => some ((t.perform e.moves).enter .reader .left)
    | _, _, _ => none
  | .sweep =>
    match t.reader with
    | .looping _ =>
      if t.session.sweepAt ≤ t.session.now then some (t.perform (sweeping t.session)) else none
    | _ => none
  | .line =>
    match t.writer, t.session.outbox with
    | .looping seen, _ :: _ => some (t.enter .writer (.writing seen))
    | _, _ => none
  | .handOver =>
    match t.writer, t.outlet with
    | .writing seen, .taking => some ((t.perform [.write]).enter .writer (.looping seen))
    | .writing _, .writeFails why => some ((t.perform [.writeError why]).enter .writer .left)
    | .writing _, .flushFails why => some ((t.perform [.flushError why]).enter .writer .left)
    | _, _ => none
  | .shutDown =>
    match t.writer, t.shut with
    | .left, false => some { t with shut := true }
    | _, _ => none

def step (t : Tasks) (a : Act) : Tasks :=
  match a with
  | .outside m => if m.isOutside then t.perform [m] else t
  -- Nothing comes behind the end of the stream.
  | .arrive bytes => if t.ending.isSome then t else { t with incoming := t.incoming ++ bytes }
  | .finish e => { t with ending := t.ending.or (some e) }
  | .outlet o => { t with outlet := o }
  | .poll p => (t.poll p).getD t

def run (acts : List Act) (t : Tasks) : Tasks := acts.foldl step t

/-- No task has anything to do before something happens outside. -/
def Quiet (t : Tasks) : Prop := ∀ p, t.poll p = none

@[simp] theorem run_nil (t : Tasks) : run [] t = t := rfl

@[simp] theorem run_cons (a : Act) (acts : List Act) (t : Tasks) :
    run (a :: acts) t = run acts (t.step a) := rfl

theorem run_append (acts more : List Act) (t : Tasks) :
    run (acts ++ more) t = run more (run acts t) := by
  simp [run, List.foldl_append]

end Tasks

end Backchannel
