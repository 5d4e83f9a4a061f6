/-
# Backchannel.Http.Exchange -- pulls that can be given up

While a response comes, event by event, a caller may give up the pull that waits and begin
another one (`Exchange.Act`).  What a pull waits for is the only state that it has of its own,
and goes with it; all else is in the replies.
-/
import Backchannel.Http.Transfer

namespace Backchannel.Http

set_option autoImplicit false

open Backchannel.Text.Utf8 (Bytes)

/-- How a request is answered in the end. -/
inductive Outcome where
  /-- There is no response. -/
  | failed (how : HttpFailure)
  | answered (status : Status) (chunks : List Bytes) (how : BodyEnd)

inductive Event where
  /-- There will be no response. -/
  | failure (how : HttpFailure)
  | piece (p : Piece)

namespace Outcome

def head : Outcome → Except HttpFailure Status
  | .failed how => .error how
  | .answered status _ _ => .ok status

/-- The events by which it becomes known. -/
def events : Outcome → List Event
  | .failed how => [.failure how]
  | .answered status chunks how =>
    .piece (.head status) :: (chunks.map (.piece ∘ .chunk) ++ [.piece (.ending how)])

end Outcome

def Arrived.note (a : Arrived) : Event → Arrived
  | .failure how => { a with head := some (.error how) }
  | .piece p => a.take p

/-- The pull that is in flight once it has come so far: what it waits for. -/
def Progress.inFlight : Progress → Option (Option Status)
  | .waiting refusal => some refusal
  | .ready _ | .crashed => none

/-- The replies to a request, the events that are still on their way, and the pull that waits, if
there is one: for the text of a refusal of that status, or for the head or more of the body. -/
structure Exchange where
  replies : Replies
  coming : List Event
  inFlight : Option (Option Status)

namespace Exchange

inductive Act where
  /-- The next event arrives. -/
  | arrive
  /-- The caller goes on with the pull that waits, or begins one. -/
  | poll
  /-- The caller gives up the pull that waits. -/
  | giveUp
  deriving DecidableEq

def perform (x : Exchange) : Act → Option Progress × Exchange
  | .arrive =>
    match x.coming with
    | [] => (none, x)
    | e :: coming =>
      (none, ⟨{ x.replies with arrived := x.replies.arrived.note e }, coming, x.inFlight⟩)
  | .poll =>
    let (progress, r) := x.replies.resume (x.inFlight.getD none)
    (some progress, ⟨r, x.coming, progress.inFlight⟩)
  | .giveUp => (none, { x with inFlight := none })

def after (x : Exchange) (acts : List Act) : Exchange :=
  acts.foldl (fun x a => (x.perform a).2) x

/-- How far the pulls come, each time that they are gone on with. -/
def progress (x : Exchange) : List Act → List Progress
  | [] => []
  | a :: acts => (x.perform a).1.toList ++ (x.perform a).2.progress acts

/-- A request that was just posted, and what comes of it. -/
def start (id : RequestId) (kind : Kind) (timeout : Duration) (o : Outcome) : Exchange :=
  ⟨⟨id, kind, .awaiting false, [], timeout, false, ⟨none, [], none⟩⟩, o.events, none⟩

end Exchange

end Backchannel.Http
