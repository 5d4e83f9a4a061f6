/-
# Backchannel.Completion.Entities -- what a model completion is made of

The configuration of a model, the messages of a prompt, the tools a model may
call, and the results it gives back, whole or in chunks.  Each has one decoder
and one JSON form.  Contents, parameters and tool schemas are passed through
untouched.
-/
import Backchannel.Json.Decoder

namespace Backchannel.Completion

set_option autoImplicit false

open Backchannel.Json
open Backchannel.Numeric (Binary64)

/-- Which model answers, and how. -/
structure ModelConfig where
  provider : String
  model : String
  mode : String
  params : Members
  deriving DecidableEq

namespace ModelConfig

def defaultMode : String := "chat"

def decoder : Decoder ModelConfig :=
  .record "LlmModelConfig"
    (.required "provider" .text <|
      .required "model" .text <|
      .defaulted "mode" .text defaultMode <|
      .defaulted "completion_params" .table [] .done)
    fun (provider, model, mode, params, ()) => ⟨provider, model, mode, params⟩

/-- The members of the JSON form. -/
def members (c : ModelConfig) : List (String × Value) :=
  [("provider", .text c.provider), ("model", .text c.model), ("mode", .text c.mode),
    ("completion_params", .object c.params)]

def toJson (c : ModelConfig) : Value := .ofMembers c.members

end ModelConfig

/-- Who speaks. -/
inductive Role where
  | system
  | user
  | assistant
  | tool
  deriving DecidableEq, Repr

namespace Role

def name : Role → String
  | .system => "system"
  | .user => "user"
  | .assistant => "assistant"
  | .tool => "tool"

def decoder : Decoder Role :=
  .oneOf ([system, user, assistant, tool].map fun r => (r.name, r))

end Role

/-- One message of a prompt.  Its content is a text or a list of parts. -/
structure Message where
  role : Role
  content : Value
  name : Option String
  deriving DecidableEq

namespace Message

def decoder : Decoder Message :=
  .record "PromptMessage"
    (.required "role" Role.decoder <|
      .defaulted "content" .value .null <|
      .defaulted "name" (.optional .text) none .done)
    fun (role, content, name, ()) => ⟨role, content, name⟩

def ofText (role : Role) (text : String) : Message := ⟨role, .text text, none⟩

/-- The members of the JSON form in their order; a name is written only if there
is one. -/
def members (m : Message) : List (String × Value) :=
  [("role", .text m.role.name), ("content", m.content)] ++
    m.name.toList.map fun n => ("name", .text n)

def toJson (m : Message) : Value := .ofMembers m.members

/-- The JSON text with the members in their order. -/
def render (m : Message) : String := renderInOrder m.members

/-- The content, if it is a text. -/
def text? (m : Message) : Option String := m.content.text?

end Message

/-- A tool that the model may call. -/
structure Tool where
  name : String
  description : String
  parameters : Value
  deriving DecidableEq

namespace Tool

def decoder : Decoder Tool :=
  .record "PromptMessageTool"
    (.required "name" .text <|
      .defaulted "description" .text "" <|
      .defaulted "parameters" .value .null .done)
    fun (name, description, parameters, ()) => ⟨name, description, parameters⟩

def toJson (t : Tool) : Value :=
  .ofMembers [("name", .text t.name), ("description", .text t.description),
    ("parameters", t.parameters)]

end Tool

/-- What a completion cost.  The latency is in seconds. -/
structure Usage where
  promptTokens : Nat
  completionTokens : Nat
  totalTokens : Nat
  latency : Binary64
  deriving DecidableEq

namespace Usage

def empty : Usage := ⟨0, 0, 0, Binary64.zero⟩

def decoder : Decoder Usage :=
  .record "LlmUsage"
    (.defaulted "prompt_tokens" .word64 0 <|
      .defaulted "completion_tokens" .word64 0 <|
      .defaulted "total_tokens" .word64 0 <|
      .defaulted "latency" .real Binary64.zero .done)
    fun (promptTokens, completionTokens, totalTokens, latency, ()) =>
      ⟨promptTokens, completionTokens, totalTokens, latency⟩

def toJson (u : Usage) : Value :=
  .ofMembers [("prompt_tokens", .ofNat u.promptTokens),
    ("completion_tokens", .ofNat u.completionTokens),
    ("total_tokens", .ofNat u.totalTokens), ("latency", .ofReal u.latency)]

end Usage

/-- A whole completion. -/
structure Result where
  model : String
  promptMessages : List Message
  message : Message
  usage : Usage
  systemFingerprint : Option String
  deriving DecidableEq

namespace Result

def decoder : Decoder Result :=
  .record "LlmResult"
    (.required "model" .text <|
      .defaulted "prompt_messages" (.list Message.decoder) [] <|
      .required "message" Message.decoder <|
      .defaulted "usage" Usage.decoder Usage.empty <|
      .defaulted "system_fingerprint" (.optional .text) none .done)
    fun (model, promptMessages, message, usage, systemFingerprint, ()) =>
      ⟨model, promptMessages, message, usage, systemFingerprint⟩

def toJson (r : Result) : Value :=
  .ofMembers [("model", .text r.model),
    ("prompt_messages", .list (r.promptMessages.map Message.toJson)),
    ("message", r.message.toJson), ("usage", r.usage.toJson),
    ("system_fingerprint", .ofOption .text r.systemFingerprint)]

end Result

/-- What a chunk adds to the completion. -/
structure Delta where
  index : Nat
  message : Message
  usage : Option Usage
  finishReason : Option String
  deriving DecidableEq

namespace Delta

def decoder : Decoder Delta :=
  .record "LlmResultChunkDelta"
    (.defaulted "index" .word32 0 <|
      .required "message" Message.decoder <|
      .defaulted "usage" (.optional Usage.decoder) none <|
      .defaulted "finish_reason" (.optional .text) none .done)
    fun (index, message, usage, finishReason, ()) => ⟨index, message, usage, finishReason⟩

def toJson (d : Delta) : Value :=
  .ofMembers [("index", .ofNat d.index), ("message", d.message.toJson),
    ("usage", .ofOption Usage.toJson d.usage),
    ("finish_reason", .ofOption .text d.finishReason)]

end Delta

/-- One chunk of a completion that is streamed. -/
structure Chunk where
  model : String
  promptMessages : List Message
  systemFingerprint : Option String
  delta : Delta
  deriving DecidableEq

namespace Chunk

def decoder : Decoder Chunk :=
  .record "LlmResultChunk"
    (.required "model" .text <|
      .defaulted "prompt_messages" (.list Message.decoder) [] <|
      .defaulted "system_fingerprint" (.optional .text) none <|
      .required "delta" Delta.decoder .done)
    fun (model, promptMessages, systemFingerprint, delta, ()) =>
      ⟨model, promptMessages, systemFingerprint, delta⟩

def toJson (c : Chunk) : Value :=
  .ofMembers [("model", .text c.model),
    ("prompt_messages", .list (c.promptMessages.map Message.toJson)),
    ("system_fingerprint", .ofOption .text c.systemFingerprint), ("delta", c.delta.toJson)]

end Chunk

end Backchannel.Completion
