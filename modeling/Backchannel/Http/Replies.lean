/-
# Backchannel.Http.Replies -- the replies in the body of a response

The body of a successful response holds the responses to one request, a frame a
line.  `Replies` reads it as the caller pulls: it waits for the head of the
response, then takes chunk by chunk until a line is complete.  How the body was cut
into chunks makes no difference.

A pull can be given up while it waits, and another one begun.  `resume` runs a pull
until it has a result or has to wait; what it waits for is the only state that a
pull has of its own.  While the text of a refusal is read, the head of the response
is gone from the replies; to begin another pull then is a mistake that crashes.
-/
import Backchannel.Http.Post
import Backchannel.Http.Status
import Backchannel.Pulled
import Backchannel.Text.Blank
import Backchannel.Text.Lines

namespace Backchannel.Http

set_option autoImplicit false

open Backchannel.Json (Value)
open Backchannel.Text.Utf8 (Bytes)

/-! ## Lines -/

/-- What a line of a body comes to. -/
inductive LineContent where
  | nothing
  | reply (r : Reply)
  | fault (f : LineFault)
  deriving DecidableEq

namespace LineContent

def ofText (line : List Char) : LineContent :=
  let line := Text.trimBoth Text.isBlank line
  if line.isEmpty then .nothing
  else
    match InboundFrame.decoder.parse (String.ofList line) with
    | .error e => .fault (.notFrame e)
    | .ok f =>
      if f.event ≠ .response then .nothing
      else
        match Response.decoder.ofValue f.data with
        | .ok r => .reply r.reply
        | .error how => .fault (.notResponse how)

def ofLine (line : Bytes) : LineContent :=
  match Text.Utf8.decode line with
  | .ok cs => ofText cs
  | .error how => .fault (.notText how)

/-- What a pull makes of a line; nothing if it has to go on. -/
def pulled? (id : RequestId) : LineContent → Option (Pulled Value)
  | .nothing => none
  | .reply (.item v) => some (.item v)
  | .reply .finish => some .finished
  | .reply (.failed message) => some (.failed (.application message))
  | .fault f => some (.failed (.protocol (.badLine id f)))

end LineContent

/-! ## What has arrived -/

inductive BodyEnd where
  | complete
  /-- The connection was lost. -/
  | broken
  deriving DecidableEq, Repr

/-- What has arrived of a response and has not been read. -/
structure Arrived where
  /-- The status, or why there will be no response. -/
  head : Option (Except HttpFailure Status)
  chunks : List Bytes
  /-- What comes behind the chunks; nothing yet if the body goes on. -/
  ending : Option BodyEnd

namespace Arrived

/-- There will be no response. -/
def failed (how : HttpFailure) : Arrived := ⟨some (.error how), [], none⟩

def size (a : Arrived) : Nat := a.chunks.foldr (fun c n => c.length + 1 + n) 0

end Arrived

/-! ## Reading -/

inductive Phase where
  /-- The head of the response is awaited.  Once it is taken it is not there again. -/
  | awaiting (taken : Bool)
  | reading
  | drained
  deriving DecidableEq, Repr

structure Replies where
  id : RequestId
  kind : Kind
  phase : Phase
  /-- What was read of the body and is in no line yet. -/
  buffer : Bytes
  timeout : Duration
  /-- An end or an error was pulled. -/
  done : Bool
  arrived : Arrived

/-- How far a pull has come. -/
inductive Progress where
  | ready (got : Pulled Value)
  /-- Something has to arrive first: the text of a refusal of that status, the head of
  the response, or more of its body. -/
  | waiting (refusal : Option Status)
  | crashed
  deriving DecidableEq

/-- The first line of some bytes, if one is complete, and what follows it. -/
def takeLine (bytes : Bytes) : Option (Bytes × Bytes) :=
  match bytes.dropWhile (· ≠ Text.lineFeed) with
  | [] => none
  | b :: rest => some (bytes.takeWhile (· ≠ Text.lineFeed) ++ [b], rest)

namespace Replies

def failed (r : Replies) (how : HttpFailure) : Pulled Value :=
  .failed (.connectionClosed (.exchange r.id how))

/-- Reads the text of a refusal.  Only a complete one is told. -/
def readRefusal (status : Status) (r : Replies) : Progress × Replies :=
  let told (body : String) : Progress :=
    .ready (.failed (.protocol (.refused r.id status.write body)))
  match r.arrived.ending with
  | none => (.waiting (some status), r)
  | some .broken => (told "", r)
  | some .complete => (told (Text.Utf8.decodeLossy r.arrived.chunks.flatten), r)

/-- Goes on reading until there is a result or something has to arrive.  `fuel` bounds
the lines and chunks. -/
def read : Nat → Replies → Progress × Replies
  | 0, r => (.waiting none, r)
  | fuel + 1, r =>
    match takeLine r.buffer with
    | some (line, rest) =>
      let r := { r with buffer := rest }
      match (LineContent.ofLine line).pulled? r.id with
      | some got => (.ready got, r)
      | none => read fuel r
    | none =>
      match r.phase with
      | .awaiting true => (.crashed, r)
      | .awaiting false =>
        match r.arrived.head with
        | none => (.waiting none, r)
        | some (.error how) => (.ready (r.failed how), { r with phase := .awaiting true })
        | some (.ok status) =>
          if status.isSuccess then read fuel { r with phase := .reading }
          else readRefusal status { r with phase := .awaiting true }
      | .reading =>
        match r.arrived.chunks, r.arrived.ending with
        | chunk :: chunks, _ =>
          read fuel { r with
            buffer := r.buffer ++ chunk
            arrived := { r.arrived with chunks := chunks } }
        | [], none => (.waiting none, r)
        | [], some .broken => (.ready (r.failed .brokenBody), r)
        | [], some .complete =>
          let tail := r.buffer
          let r := { r with phase := .drained, buffer := [] }
          if tail.isEmpty then (.ready .finished, r)
          else
            match (LineContent.ofLine tail).pulled? r.id with
            | some got => (.ready got, r)
            | none => (.ready .finished, r)
      | .drained => (.ready .finished, r)

/-- After anything but an item there is only the end. -/
def conclude (got : Pulled Value) (r : Replies) : Replies :=
  if got.isOver then { r with done := true, phase := .drained } else r

/-- Runs a pull, from its beginning or from where it waits. -/
def resume (refusal : Option Status) (r : Replies) : Progress × Replies :=
  if r.done then (.ready .finished, r)
  else
    let (progress, r) :=
      match refusal with
      | some status => readRefusal status r
      | none => read (r.buffer.length + r.arrived.size + 3) r
    match progress with
    | .ready got => (.ready got, r.conclude got)
    | progress => (progress, r)

/-- The deadline passes while a pull waits. -/
def expire (r : Replies) : Pulled Value × Replies :=
  let got : Pulled Value := .failed (.timeout r.id r.timeout)
  (got, r.conclude got)

/-- A pull to its end, if nothing more arrives: what is missing is waited for until
the deadline. -/
def recv (r : Replies) : Pulled Value × Replies :=
  match r.resume none with
  | (.ready got, r) => (got, r)
  | (.waiting _, r) => r.expire
  | (.crashed, r) => (.pending, r)

end Replies

end Backchannel.Http
