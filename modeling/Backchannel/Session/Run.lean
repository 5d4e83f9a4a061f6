/-
# Backchannel.Session.Run -- the runs of a session

Plugin, reader, writer and clock take turns, in any order and as often as they like.
`Session.Move` lists what each can do in one turn, `Session.perform` does it, and a run
is a list of moves.  A move that cannot be made now changes nothing.  The turn of a task
that waits for a timer is several moves in one (`Happening`).

`Session.steps` tells a run step by step, so that what it has brought about for one
request can be read off: `pulls` are the answers that its caller got, `routed` the items
that came for it while it was outstanding.

Ids are made at random.  `Distinct` says that no two requests of a run share theirs.
-/
import Backchannel.Session.Clock

namespace Backchannel.Session

set_option autoImplicit false

open Backchannel.Json (Value)

/-! ## Moves -/

inductive Move where
  /-- The plugin makes a request. -/
  | send (id : RequestId) (sessionId : Option String) (kind : Kind) (payload : Value)
  /-- The caller of a request pulls once. -/
  | recv (id : RequestId)
  /-- The caller lets go of a request, or its task is cancelled. -/
  | drop (id : RequestId)
  | heartbeat
  | close
  | dropInbound
  /-- The reader takes a byte. -/
  | byte (b : UInt8)
  /-- The reader takes what is left of a line at the end of the stream. -/
  | tail
  | endOfStream
  | readError (why : String)
  /-- The writer hands a line to the daemon. -/
  | write
  | writeError (why : String)
  | flushError (why : String)
  /-- The reader notices that the session is closed. -/
  | leaveInput
  /-- The writer notices that the session is closed. -/
  | leaveOutput
  | sweep
  /-- The daemon takes no more of what the plugin writes. -/
  | endOutput
  /-- The timers are set. -/
  | timers (sweepAt : Instant) (beatAt : Option Instant)
  /-- Time passes. -/
  | pass (span : Duration)

/-- What the one who moves is told. -/
inductive Answer where
  | done
  /-- Nothing of that id is held. -/
  | gone
  | sent (result : Except CallError Unit)
  | pulled (got : Pulled Value)

/-- The answer says that the connection is closed for that reason. -/
def Answer.tells (reason : CloseReason) : Answer → Prop
  | .sent (.error e) => e = .connectionClosed reason
  | .pulled got => got = .failed (.connectionClosed reason)
  | _ => False

def perform (m : Move) (s : Session) : Answer × Session :=
  match m with
  | .send id sessionId kind payload =>
    let (result, s) := s.send id sessionId kind payload
    (.sent result, s)
  | .recv id =>
    if (s.subscriptions.get? id).isSome then
      let (got, s) := s.recv id
      (.pulled got, s)
    else (.gone, s)
  | .drop id => (.done, s.drop id)
  | .heartbeat =>
    let (result, s) := s.heartbeat
    (.sent result, s)
  | .close => (.done, s.close)
  | .dropInbound => (.done, s.dropInbound)
  | .byte b => (.done, s.readByte b)
  | .tail => (.done, s.readTail)
  | .endOfStream => (.done, s.stopInput .endOfStream)
  | .readError why => (.done, s.failInput why)
  | .write => (.done, s.writeNext)
  | .writeError why => (.done, s.failOutput (.writeFailed why))
  | .flushError why => (.done, s.failOutput (.flushFailed why))
  | .leaveInput => (.done, s.leaveInput)
  | .leaveOutput => (.done, s.leaveOutput)
  | .sweep => (.done, s.sweep)
  | .endOutput => (.done, s.endOutput)
  | .timers sweepAt beatAt => (.done, { s with sweepAt := sweepAt, beatAt := beatAt })
  | .pass span => (.done, { s with now := s.now + span })

/-- The session after a move. -/
def step (s : Session) (m : Move) : Session := (s.perform m).2

/-- The session after a run. -/
def run (ms : List Move) (s : Session) : Session := ms.foldl step s

@[simp] theorem run_nil (s : Session) : run [] s = s := rfl

@[simp] theorem run_cons (m : Move) (ms : List Move) (s : Session) :
    run (m :: ms) s = run ms (s.step m) := rfl

theorem run_append (ms ns : List Move) (s : Session) : run (ms ++ ns) s = run ns (run ms s) := by
  simp [run, List.foldl_append]

theorem run_snoc (ms : List Move) (m : Move) (s : Session) :
    run (ms ++ [m]) s = (run ms s).step m := by
  simp [run_append]

/-- Of the moves only this one is there for the timers. -/
def Move.setsTimers : Move → Bool
  | .timers _ _ => true
  | _ => false

/-- The reader takes the line of a response. -/
def hears (r : Response) : List Move :=
  (InboundFrame.ofResponse none r).toLine.toUTF8.toList.map .byte

/-! ## Timers -/

inductive Happening where
  | move (m : Move)
  /-- The task that sweeps has its turn. -/
  | sweep
  /-- The task that sends heartbeats has its turn. -/
  | beat

def happen (s : Session) : Happening → Session
  | .move m => s.step m
  | .sweep => s.fireSweep
  | .beat => fireBeats 1 s

/-- The session after all that happens. -/
def after (hs : List Happening) (s : Session) : Session := hs.foldl happen s

/-- Time passes when no line waits for the writer, and not past the moment at which a heartbeat
is due; and only their tasks set the timers. -/
def Happening.Paced (s : Session) : Happening → Prop
  | .move (.pass span) => 0 < span → s.outbox = [] ∧
      (s.status.isClosed = false → ∀ due, s.beatAt = some due → s.now + span ≤ due)
  | .move m => m.setsTimers = false
  | .sweep | .beat => True

/-- Time passes continuously. -/
def Paced : List Happening → Session → Prop
  | [], _ => True
  | h :: hs, s => h.Paced s ∧ Paced hs (s.happen h)

theorem after_append (hs more : List Happening) (s : Session) :
    after (hs ++ more) s = after more (after hs s) := List.foldl_append

/-! ## Ids -/

/-- The id under which a move makes a request. -/
def Move.sends? : Move → Option RequestId
  | .send id _ _ _ => some id
  | _ => none

/-- The ids of the requests that a run makes. -/
def sentIds (ms : List Move) : List RequestId := ms.filterMap Move.sends?

/-- The request whose caller alone makes a move. -/
def Move.caller? : Move → Option RequestId
  | .send id _ _ _ | .recv id | .drop id => some id
  | _ => none

/-- Each request of a run has an id of its own. -/
def Distinct (ms : List Move) : Prop := (sentIds ms).Nodup

theorem sentIds_cons (m : Move) (ms : List Move) :
    sentIds (m :: ms) = m.sends?.toList ++ sentIds ms := by
  cases sent : m.sends? <;> simp [sentIds, sent]

instance (ms : List Move) : Decidable (Distinct ms) :=
  inferInstanceAs (Decidable (sentIds ms).Nodup)

/-! ## What a run tells -/

/-- A move and the session that it finds. -/
structure Step where
  before : Session
  move : Move

def Step.answer (st : Step) : Answer := (st.before.perform st.move).1

/-- A run, step by step. -/
def steps : List Move → Session → List Step
  | [], _ => []
  | m :: ms, s => ⟨s, m⟩ :: steps ms (s.step m)

@[simp] theorem steps_cons (m : Move) (ms : List Move) (s : Session) :
    steps (m :: ms) s = ⟨s, m⟩ :: steps ms (s.step m) := rfl

theorem steps_append (ms ns : List Move) (s : Session) :
    steps (ms ++ ns) s = steps ms s ++ steps ns (run ms s) := by
  induction ms generalizing s with
  | nil => rfl
  | cons m ms ih => exact congrArg _ (ih (s.step m))

/-- What the reader makes of the bytes that it takes in a move. -/
def heard (m : Move) (s : Session) : Notice :=
  match m with
  | .byte b =>
    if s.reading && b == Text.lineFeed then .ofLine (b :: s.unread).reverse else .nothing
  | .tail => if s.reading && !s.unread.isEmpty then .ofLine s.unread.reverse else .nothing
  | _ => .nothing

/-- The item that a reply is. -/
def itemOf? : Reply → Option Value
  | .item v => some v
  | _ => none

namespace Step

/-- The reply that a step routes to a request which is outstanding. -/
def reply? (id : RequestId) (st : Step) : Option Reply :=
  match heard st.move st.before with
  | .response r => if r.id = id ∧ st.before.isOutstanding id then some r.reply else none
  | _ => none

/-- The item that a step routes to a request. -/
def item? (id : RequestId) (st : Step) : Option Value := (st.reply? id).bind itemOf?

/-- The item that a step puts into the open mailbox of a request. -/
def accepted? (id : RequestId) (st : Step) : Option Value :=
  match st.item? id, (st.before.table.get? id).bind fun e => st.before.mailboxes[e.mailbox]? with
  | some v, some box => if box.closure.isNone then some v else none
  | _, _ => none

/-- What a step brings to the caller of a request, if it is a pull. -/
def pull? (id : RequestId) (st : Step) : Option (Pulled Value) :=
  match st.move, st.answer with
  | .recv other, .pulled got => if other = id then some got else none
  | _, _ => none

/-- As `pull?`, but for the pulls that find nothing. -/
def result? (id : RequestId) (st : Step) : Option (Pulled Value) :=
  (st.pull? id).filter (· ≠ .pending)

end Step

/-- The items that came for a request while it was outstanding, in order. -/
def routed (id : RequestId) (t : List Step) : List Value := t.filterMap (Step.item? id)

/-- The items that the mailbox of a request took, in order. -/
def accepted (id : RequestId) (t : List Step) : List Value := t.filterMap (Step.accepted? id)

/-- What the pulls of the caller of a request brought, in order. -/
def pulls (id : RequestId) (t : List Step) : List (Pulled Value) := t.filterMap (Step.pull? id)

/-- What they brought, but for those that found nothing. -/
def results (id : RequestId) (t : List Step) : List (Pulled Value) :=
  t.filterMap (Step.result? id)

theorem filterMap_cons {α : Type} (f : Step → Option α) (st : Step) (t : List Step) :
    (st :: t).filterMap f = (f st).toList ++ t.filterMap f := by
  cases found : f st <;> simp [found]

theorem filterMap_snoc {α : Type} (f : Step → Option α) (t : List Step) (st : Step) :
    (t ++ [st]).filterMap f = t.filterMap f ++ (f st).toList := by
  cases found : f st <;> simp [found]

end Backchannel.Session
