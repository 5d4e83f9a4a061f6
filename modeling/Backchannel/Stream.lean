/-
# Backchannel.Stream -- typed streams over raw items

A typed stream reads each raw item in the shape that was asked for, at the moment
it is pulled.  The first item that has not that shape ends the stream, as an error
of the source does; after its end a stream is never pulled from again.

The source is any state with a pull: a subscription of a session, or the replies of
an HTTP exchange.
-/
import Backchannel.Pulled

namespace Backchannel

set_option autoImplicit false

open Backchannel.Json (Decoder Value)

structure Stream (α : Type) where
  id : RequestId
  shape : Decoder α
  /-- The end or an error was pulled. -/
  ended : Bool

namespace Stream

variable {α σ : Type}

/-- The stream of a request that was just made. -/
def ofRequest (id : RequestId) (shape : Decoder α) : Stream α := ⟨id, shape, false⟩

/-- What a raw pull brings to a stream of that shape. -/
def typed (id : RequestId) (shape : Decoder α) : Pulled Value → Pulled α
  | .pending => .pending
  | .finished => .finished
  | .failed e => .failed e
  | .item v =>
    match shape.ofValue v with
    | .ok a => .item a
    | .error how => .failed (.decode id (.value how))

/-- The next element.  `pull` is the pull of the source. -/
def next (pull : σ → Pulled Value × σ) (s : Stream α) (source : σ) :
    Pulled α × Stream α × σ :=
  if s.ended then (.finished, s, source)
  else
    let (raw, source) := pull source
    let got := typed s.id s.shape raw
    (got, { s with ended := got.isOver }, source)

/-- Pulls until nothing more is there, at most `fuel` times.  The answer holds what
came, oldest first, and whether the stream is over. -/
def drain (pull : σ → Pulled Value × σ) :
    Nat → Stream α → σ → List (Except CallError α) × Bool × Stream α × σ
  | 0, s, source => ([], false, s, source)
  | fuel + 1, s, source =>
    match s.next pull source with
    | (.pending, s, source) => ([], false, s, source)
    | (.finished, s, source) => ([], true, s, source)
    | (.item a, s, source) =>
      let (rest, ended, s, source) := drain pull fuel s source
      (.ok a :: rest, ended, s, source)
    | (.failed e, s, source) => ([.error e], true, s, source)

/-- All elements, or the first error. -/
def gather : List (Except CallError α) → Except CallError (List α)
  | [] => .ok []
  | .ok a :: rest => (gather rest).map (a :: ·)
  | .error e :: _ => .error e

/-- What a call for one result makes of its first pull: no answer yet, or the
element, none, or an error. -/
def single (id : RequestId) (shape : Decoder α) (raw : Pulled Value) :
    Option (Except CallError (Option α)) :=
  match typed id shape raw with
  | .pending => none
  | .item a => some (.ok (some a))
  | .finished => some (.ok none)
  | .failed e => some (.error e)

end Stream

end Backchannel
