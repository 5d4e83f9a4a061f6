/-
# Backchannel.Completion.Request -- asking for a completion

A request is written as one flat object: the members of the model configuration
beside the messages, the tools, the stop words and the flag that asks for a
stream.  Empty lists of tools and of stop words are written as `null`.
-/
import Backchannel.Completion.Entities

namespace Backchannel.Completion

set_option autoImplicit false

open Backchannel.Json

/-- All that a completion needs but the stream flag. -/
structure Request where
  config : ModelConfig
  messages : List Message
  tools : List Tool
  stop : List String
  deriving DecidableEq

namespace Request

/-- A list of values, or `null` if there are none. -/
def listOrNull (items : List Value) : Value :=
  if items.isEmpty then .null else .list items

/-- The flat object; the later of two members of one key is kept. -/
def payload (r : Request) (stream : Bool) : Value :=
  .ofMembers <| r.config.members ++
    [("prompt_messages", .list (r.messages.map Message.toJson)),
      ("tools", listOrNull (r.tools.map Tool.toJson)),
      ("stop", listOrNull (r.stop.map Value.text)),
      ("stream", .bool stream)]

end Request

end Backchannel.Completion
