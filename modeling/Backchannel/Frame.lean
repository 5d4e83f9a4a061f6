/-
# Backchannel.Frame -- the frames on the wire

Plugin and daemon exchange frames, one JSON object a line.  Outbound frames carry
requests and heartbeats; inbound frames carry the responses to those requests and
the daemon's own requests to the plugin.

A request travels inside an envelope tagged `invoke`.  What a response means for
the stream it belongs to is its `Reply`: an item, the end, or a failure.
-/
import Backchannel.Kind

namespace Backchannel

set_option autoImplicit false

open Backchannel.Json

/-- Correlates a request with its responses. -/
abbrev RequestId := String

/-! ## Outbound -/

/-- The body of a request: its kind, its id and its payload. -/
structure Request where
  kind : Kind
  id : RequestId
  payload : Value
  deriving DecidableEq

namespace Request

def decoder : Decoder Request :=
  .record "InvokeRequest"
    (.required "type" Kind.decoder <|
      .required "backwards_request_id" .text <|
      .required "request" .value .done)
    fun (kind, id, payload, ()) => ⟨kind, id, payload⟩

def toJson (r : Request) : Value :=
  .ofMembers [("type", r.kind.toJson), ("backwards_request_id", .text r.id),
    ("request", r.payload)]

end Request

/-- The wrapping of a request inside a frame. -/
structure Envelope where
  tag : String
  request : Request
  deriving DecidableEq

namespace Envelope

/-- The tag of an envelope that holds a request. -/
def invokeTag : String := "invoke"

def decoder : Decoder Envelope :=
  .record "InvokeEnvelope"
    (.required "type" .text <| .required "data" Request.decoder .done)
    fun (tag, request, ()) => ⟨tag, request⟩

def toJson (e : Envelope) : Value :=
  .ofMembers [("type", .text e.tag), ("data", e.request.toJson)]

end Envelope

inductive OutboundEvent where
  | session
  | heartbeat
  deriving DecidableEq, Repr

namespace OutboundEvent

def name : OutboundEvent → String
  | .session => "session"
  | .heartbeat => "heartbeat"

def decoder : Decoder OutboundEvent :=
  .oneOf ([session, heartbeat].map fun e => (e.name, e))

end OutboundEvent

/-- A frame from the plugin to the daemon. -/
structure OutboundFrame where
  sessionId : Option String
  event : OutboundEvent
  data : Value
  deriving DecidableEq

/-- The members of a frame in the order in which they are written. -/
def frameMembers (sessionId : Option String) (event : String) (data : Value) :
    List (String × Value) :=
  [("session_id", .ofOption .text sessionId), ("event", .text event), ("data", data)]

/-- A frame as a line, with the line feed that ends it. -/
def frameLine (sessionId : Option String) (event : String) (data : Value) : String :=
  String.ofList ((Value.object (frameMembers sessionId event data)).write ['\n'])

namespace OutboundFrame

def decoder : Decoder OutboundFrame :=
  .record "OutboundFrame"
    (.required "session_id" (.optional .text) <|
      .required "event" OutboundEvent.decoder <|
      .required "data" .value .done)
    fun (sessionId, event, data, ()) => ⟨sessionId, event, data⟩

def toJson (f : OutboundFrame) : Value :=
  .ofMembers (frameMembers f.sessionId f.event.name f.data)

def toLine (f : OutboundFrame) : String := frameLine f.sessionId f.event.name f.data

/-- The frame that asks for a request on behalf of a plugin session. -/
def invoke (sessionId : Option String) (r : Request) : OutboundFrame :=
  ⟨sessionId, .session, (Envelope.mk Envelope.invokeTag r).toJson⟩

/-- The frame that says the plugin is alive. -/
def heartbeat : OutboundFrame := ⟨none, .heartbeat, .object []⟩

/-- The request that a frame carries, if it carries one. -/
def request? (f : OutboundFrame) : Option Request :=
  match f.event with
  | .heartbeat => none
  | .session =>
    match Envelope.decoder.ofValue f.data with
    | .ok e => if e.tag = Envelope.invokeTag then some e.request else none
    | .error _ => none

end OutboundFrame

/-! ## Inbound -/

inductive InboundEvent where
  /-- The daemon asks something of the plugin. -/
  | request
  /-- One response to a request of the plugin. -/
  | response
  /-- Any other event. -/
  | unknown
  deriving DecidableEq, Repr

namespace InboundEvent

def name : InboundEvent → String
  | .request => "request"
  | .response => "backwards_response"
  | .unknown => "unknown"

def decoder : Decoder InboundEvent :=
  .oneOf ([request, response].map fun e => (e.name, e)) (some .unknown)

end InboundEvent

/-- A frame from the daemon to the plugin. -/
structure InboundFrame where
  sessionId : Option String
  event : InboundEvent
  data : Value
  deriving DecidableEq

inductive ResponseEvent where
  | response
  | error
  | finish
  deriving DecidableEq, Repr

namespace ResponseEvent

def name : ResponseEvent → String
  | .response => "response"
  | .error => "error"
  | .finish => "end"

def decoder : Decoder ResponseEvent :=
  .oneOf ([response, error, finish].map fun e => (e.name, e))

end ResponseEvent

/-- One response to a request. -/
structure Response where
  id : RequestId
  event : ResponseEvent
  message : String
  data : Option Value
  deriving DecidableEq

/-- What a response means for the stream of its request. -/
inductive Reply where
  | item (data : Value)
  | finish
  | failed (message : String)
  deriving DecidableEq

namespace Response

def decoder : Decoder Response :=
  .record "BackwardsResponse"
    (.required "backwards_request_id" .text <|
      .required "event" ResponseEvent.decoder <|
      .defaulted "message" .text "" <|
      .defaulted "data" (.optional .value) none .done)
    fun (id, event, message, data, ()) => ⟨id, event, message, data⟩

def toJson (r : Response) : Value :=
  .ofMembers [("backwards_request_id", .text r.id), ("event", .text r.event.name),
    ("message", .text r.message), ("data", .ofOption (fun v => v) r.data)]

def item (id : RequestId) (data : Value) : Response := ⟨id, .response, "", some data⟩

def finish (id : RequestId) : Response := ⟨id, .finish, "", none⟩

def failed (id : RequestId) (message : String) : Response := ⟨id, .error, message, none⟩

/-- Nothing follows the response.  One without data ends the stream as well. -/
def isTerminal (r : Response) : Bool :=
  match r.event with
  | .response => r.data.isNone
  | .error | .finish => true

def reply (r : Response) : Reply :=
  match r.event, r.data with
  | .response, some data => .item data
  | .response, none => .finish
  | .finish, _ => .finish
  | .error, _ => .failed r.message

end Response

namespace InboundFrame

def decoder : Decoder InboundFrame :=
  .record "InboundFrame"
    (.defaulted "session_id" (.optional .text) none <|
      .required "event" InboundEvent.decoder <|
      .defaulted "data" .value .null .done)
    fun (sessionId, event, data, ()) => ⟨sessionId, event, data⟩

def toJson (f : InboundFrame) : Value :=
  .ofMembers (frameMembers f.sessionId f.event.name f.data)

def toLine (f : InboundFrame) : String := frameLine f.sessionId f.event.name f.data

def ofResponse (sessionId : Option String) (r : Response) : InboundFrame :=
  ⟨sessionId, .response, r.toJson⟩

def ofRequest (sessionId : Option String) (data : Value) : InboundFrame :=
  ⟨sessionId, .request, data⟩

end InboundFrame

end Backchannel
