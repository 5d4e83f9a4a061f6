/-
# Backchannel.Kind -- what a plugin may ask of its host

The operations that the host daemon performs on behalf of a plugin.  The runtime
treats them alike; the list fixes their names on the wire.
-/
import Backchannel.Json.Decoder

namespace Backchannel

set_option autoImplicit false

open Backchannel.Json (Decoder Value)

/-- The operation that a request asks for. -/
inductive Kind where
  | tool
  | llm
  | textEmbedding
  | rerank
  | tts
  | speech2text
  | moderation
  | app
  | nodeParameterExtractor
  | nodeQuestionClassifier
  | storage
  | summary
  | uploadFile
  | fetchApp
  deriving DecidableEq, Repr

namespace Kind

/-- Every kind, in the order in which messages list them. -/
def all : List Kind :=
  [.tool, .llm, .textEmbedding, .rerank, .tts, .speech2text, .moderation, .app,
   .nodeParameterExtractor, .nodeQuestionClassifier, .storage, .summary, .uploadFile,
   .fetchApp]

/-- The name on the wire. -/
def name : Kind → String
  | .tool => "tool"
  | .llm => "llm"
  | .textEmbedding => "text_embedding"
  | .rerank => "rerank"
  | .tts => "tts"
  | .speech2text => "speech2text"
  | .moderation => "moderation"
  | .app => "app"
  | .nodeParameterExtractor => "node_parameter_extractor"
  | .nodeQuestionClassifier => "node_question_classifier"
  | .storage => "storage"
  | .summary => "summary"
  | .uploadFile => "upload_file"
  | .fetchApp => "fetch_app"

/-- The name for a programmer's eyes. -/
def title : Kind → String
  | .tool => "Tool"
  | .llm => "Llm"
  | .textEmbedding => "TextEmbedding"
  | .rerank => "Rerank"
  | .tts => "Tts"
  | .speech2text => "Speech2Text"
  | .moderation => "Moderation"
  | .app => "App"
  | .nodeParameterExtractor => "NodeParameterExtractor"
  | .nodeQuestionClassifier => "NodeQuestionClassifier"
  | .storage => "Storage"
  | .summary => "Summary"
  | .uploadFile => "UploadFile"
  | .fetchApp => "FetchApp"

/-- The kind of that name, letter by letter. -/
def ofName? (s : String) : Option Kind := all.find? fun k => k.name == s

def decoder : Decoder Kind := .oneOf (all.map fun k => (k.name, k))

def toJson (k : Kind) : Value := .text k.name

end Kind

/-- What is said of a name that belongs to no member of a closed list. -/
def unknownNameMessage : String := "Matching variant not found"

end Backchannel
