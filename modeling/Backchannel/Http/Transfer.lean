/-
# Backchannel.Http.Transfer -- a response that comes piece by piece

A response comes in pieces: its head, its body in chunks, the end of that.  Between any two of
them, and as often as he likes, the caller may pull (`Transfer.Act`); a pull that has to wait
goes on with the next one.
-/
import Backchannel.Http.Replies

namespace Backchannel.Http

set_option autoImplicit false

open Backchannel.Json (Value)
open Backchannel.Text.Utf8 (Bytes)

/-- A piece of a response. -/
inductive Piece where
  | head (status : Status)
  | chunk (bytes : Bytes)
  | ending (how : BodyEnd)

/-- What a piece brings of the body. -/
def Piece.bytes : Piece → Bytes
  | .chunk bytes => bytes
  | _ => []

def Arrived.take (a : Arrived) : Piece → Arrived
  | .head status => { a with head := some (.ok status) }
  | .chunk bytes => { a with chunks := a.chunks ++ [bytes] }
  | .ending how => { a with ending := some how }

/-- The replies to a request, and the pieces that are still on their way. -/
structure Transfer where
  replies : Replies
  coming : List Piece

/-- The result of a pull that has come to its end. -/
def Progress.result? : Progress → Option (Pulled Value)
  | .ready got => some got
  | .waiting _ | .crashed => none

namespace Transfer

inductive Act where
  /-- The next piece arrives. -/
  | arrive
  /-- The caller pulls, or goes on with a pull that waits. -/
  | pull
  deriving DecidableEq

def perform (x : Transfer) : Act → Option Progress × Transfer
  | .arrive =>
    match x.coming with
    | [] => (none, x)
    | piece :: coming =>
      (none, ⟨{ x.replies with arrived := x.replies.arrived.take piece }, coming⟩)
  | .pull =>
    let (progress, r) := x.replies.resume none
    (some progress, ⟨r, x.coming⟩)

def after (x : Transfer) (acts : List Act) : Transfer :=
  acts.foldl (fun x a => (x.perform a).2) x

/-- How far the pulls come. -/
def progress (x : Transfer) : List Act → List Progress
  | [] => []
  | a :: acts => (x.perform a).1.toList ++ (x.perform a).2.progress acts

/-- What the pulls bring that come to their ends. -/
def told (x : Transfer) (acts : List Act) : List (Pulled Value) :=
  (x.progress acts).filterMap Progress.result?

/-- A request that was just posted, and the response to it. -/
def start (id : RequestId) (kind : Kind) (timeout : Duration) (status : Status)
    (chunks : List Bytes) (how : BodyEnd) : Transfer :=
  ⟨⟨id, kind, .awaiting false, [], timeout, false, ⟨none, [], none⟩⟩,
    .head status :: (chunks.map .chunk ++ [.ending how])⟩

end Transfer

end Backchannel.Http
