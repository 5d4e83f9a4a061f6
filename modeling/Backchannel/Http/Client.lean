/-
# Backchannel.Http.Client -- calls by HTTP

The calls that a plugin makes over a session it can make by HTTP as well, one
exchange each.  A `Network` says what comes back for what is posted.
-/
import Backchannel.Completion.Request
import Backchannel.Http.Replies
import Backchannel.Storage
import Backchannel.Stream
import Backchannel.Timing

namespace Backchannel.Http

set_option autoImplicit false

open Backchannel.Json (Decoder Value)

/-- What comes back for what is posted. -/
abbrev Network := Post → Arrived

/-- A network on which no host is reached. -/
def Network.unreachable : Network := fun post => .failed (.unanswered post.url.write)

structure Client where
  endpoint : Url
  timeout : Duration
  network : Network

namespace Client

/-- Posts a request under a fresh id. -/
def send (c : Client) (id : RequestId) (sessionId : Option String) (kind : Kind)
    (payload : Value) : Replies :=
  let arrived :=
    match Post.ofRequest c.endpoint sessionId ⟨kind, id, payload⟩ with
    | .ok post => c.network post
    | .error how => .failed how
  ⟨id, kind, .awaiting false, [], c.timeout, false, arrived⟩

/-- The first element of the replies. -/
def single {α : Type} (c : Client) (id : RequestId) (sessionId : Option String) (kind : Kind)
    (payload : Value) (shape : Decoder α) : Except CallError (Option α) :=
  match Stream.single id shape (c.send id sessionId kind payload).recv.1 with
  | some result => result
  | none => .ok none

def storage (c : Client) (id : RequestId) (sessionId : Option String)
    (op : Storage.Operation) : Except CallError Storage.Answer :=
  op.conclude (c.single id sessionId .storage op.payload Storage.replyDecoder)

/-- A completion that is not streamed. -/
def complete (c : Client) (id : RequestId) (sessionId : Option String)
    (r : Completion.Request) : Except CallError Completion.Result :=
  match c.single id sessionId .llm (r.payload false) Completion.Result.decoder with
  | .ok (some result) => .ok result
  | .ok none => .error (.noResponse .llm)
  | .error e => .error e

end Client

/-- Pulls from a source that many times. -/
def pullTimes {α σ : Type} (pull : σ → Pulled α × σ) : Nat → σ → List (Pulled α) × σ
  | 0, source => ([], source)
  | count + 1, source =>
    let (got, source) := pull source
    let (rest, source) := pullTimes pull count source
    (got :: rest, source)

/-- A typed stream of replies. -/
structure ReplyStream (α : Type) where
  stream : Stream α
  replies : Replies

namespace ReplyStream

/-- Opens a typed stream of the replies to a request. -/
def start {α : Type} (shape : Decoder α) (replies : Replies) : ReplyStream α :=
  ⟨.ofRequest replies.id shape, replies⟩

def next {α : Type} (s : ReplyStream α) : Pulled α × ReplyStream α :=
  let (got, stream, replies) := s.stream.next Replies.recv s.replies
  (got, ⟨stream, replies⟩)

/-- The next element of a timed stream, whose guard goes at its end. -/
def nextTimed {α κ : Type} [DecidableEq κ] (guard : κ) (s : ReplyStream α × Timing κ) :
    Pulled α × ReplyStream α × Timing κ :=
  let (got, stream) := s.1.next
  (got, stream, if got.isOver then s.2.release guard else s.2)

end ReplyStream

end Backchannel.Http
