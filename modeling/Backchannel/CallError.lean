/-
# Backchannel.CallError -- how a call can fail

The failures that the caller of a remote operation sees, each with its cause.
`CallError.category` sorts them by what the caller can do about them, and
`CallError.message` is their one wording.
-/
import Backchannel.Duration
import Backchannel.Frame
import Backchannel.Text.Hex

namespace Backchannel

set_option autoImplicit false

open Backchannel.Json (Value Mismatch TextError)
open Backchannel.Text (quoted)

/-- What a caller can do about a failure. -/
inductive Category where
  /-- The connection is gone. -/
  | connection
  /-- Nothing ended the request in time. -/
  | timeout
  /-- What came back cannot be made sense of. -/
  | protocol
  /-- Something was asked for that is not there. -/
  | notFound
  /-- The operation itself failed. -/
  | application
  /-- The caller broke a rule of use. -/
  | contractViolation
  deriving DecidableEq, Repr

def Category.title : Category → String
  | .connection => "Connection"
  | .timeout => "Timeout"
  | .protocol => "Protocol"
  | .notFound => "NotFound"
  | .application => "Application"
  | .contractViolation => "ContractViolation"

/-- Why data could not be read: straight from text, or from a value. -/
inductive ReadError where
  | text (e : TextError)
  | value (how : Mismatch)
  deriving DecidableEq

def ReadError.message : ReadError → String
  | .text e => e.message
  | .value how => how.message

/-- Why an exchange over HTTP came to no end. -/
inductive HttpFailure where
  /-- The request cannot be written down. -/
  | unwritable
  /-- That address is not one for HTTP. -/
  | unsupported (url : String)
  /-- The request to that address got no response. -/
  | unanswered (url : String)
  /-- The response broke off. -/
  | brokenBody
  deriving DecidableEq, Repr

def HttpFailure.message : HttpFailure → String
  | .unwritable => "builder error"
  | .unsupported url => s!"builder error for url ({url})"
  | .unanswered url => s!"error sending request for url ({url})"
  | .brokenBody => "error decoding response body"

/-- Why a connection is closed. -/
inductive CloseReason where
  | byPlugin
  | endOfStream
  | readFailed (why : String)
  | writeFailed (why : String)
  | flushFailed (why : String)
  /-- Told of a session that is open: never seen. -/
  | shuttingDown
  /-- Told when the writer is gone before the session is closed: never seen. -/
  | writerStopped
  /-- The exchange of one request failed. -/
  | exchange (id : RequestId) (how : HttpFailure)
  | other (why : String)
  deriving DecidableEq, Repr

def CloseReason.message : CloseReason → String
  | .byPlugin => "session closed by plugin"
  | .endOfStream => "transport reached end of stream"
  | .readFailed why => s!"transport read failed: {why}"
  | .writeFailed why => s!"transport write failed: {why}"
  | .flushFailed why => s!"transport flush failed: {why}"
  | .shuttingDown => "session is shutting down"
  | .writerStopped => "transport writer stopped"
  | .exchange id how => s!"backwards request {id} over http failed: {how.message}"
  | .other why => why

/-- What is wrong with a line of an HTTP response. -/
inductive LineFault where
  | notText (how : Text.Utf8.Failure)
  | notFrame (how : TextError)
  | notResponse (how : Mismatch)
  deriving DecidableEq

def LineFault.message : LineFault → String
  | .notText how => s!"non UTF-8 line: {how.message}"
  | .notFrame how => s!"undecodable frame: {how.message}"
  | .notResponse how => s!"malformed backwards response: {how.message}"

/-- How a reply breaks the rules of the protocol. -/
inductive Violation where
  | malformedResponse (how : Mismatch)
  | badLine (id : RequestId) (fault : LineFault)
  /-- The daemon answered a request with another status than success. -/
  | refused (id : RequestId) (status body : String)
  | storedNotText (key : String)
  | storedNotHex (key : String) (how : Text.Hex.Failure)
  | existsNotBool (key : String) (found : Value)
  | existsUnanswered (key : String)
  /-- Another failure of this request, told to several waiting callers. -/
  | told (message : String)
  | other (what : String)
  deriving DecidableEq

def Violation.message : Violation → String
  | .malformedResponse how => s!"malformed backwards response: {how.message}"
  | .badLine id fault => s!"backwards request {id}: {fault.message}"
  | .refused id status body => s!"backwards request {id}: daemon answered {status}: {body}"
  | .storedNotText key => s!"storage get for {quoted key} returned non-string data"
  | .storedNotHex key how => s!"storage get for {quoted key}: bad hex: {how.message}"
  | .existsNotBool key found => s!"storage exist for {quoted key} returned {found.render}"
  | .existsUnanswered key => s!"storage exist for {quoted key} got no answer"
  | .told message => message
  | .other what => what

/-- A failed call. -/
inductive CallError where
  /-- The connection to the daemon is gone. -/
  | connectionClosed (reason : CloseReason)
  /-- The request saw no terminal response in time. -/
  | timeout (id : RequestId) (after : Duration)
  /-- An item has not the shape that was asked for. -/
  | decode (id : RequestId) (source : ReadError)
  /-- The request cannot be written down. -/
  | encode (source : ReadError)
  | protocol (violation : Violation)
  /-- The caller fell behind and items were dropped. -/
  | lagged (id : RequestId) (skipped : Nat)
  | notFound (what : String)
  /-- A call for one result ended without any. -/
  | noResponse (kind : Kind)
  /-- The daemon reports that the operation failed. -/
  | application (message : String)
  /-- A timed call was entered while another one was running. -/
  | race
  deriving DecidableEq

namespace CallError

def category : CallError → Category
  | .connectionClosed _ => .connection
  | .timeout _ _ => .timeout
  | .decode _ _ | .encode _ | .protocol _ | .lagged _ _ => .protocol
  | .notFound _ | .noResponse _ => .notFound
  | .application _ => .application
  | .race => .contractViolation

/-- The name of the failure, without its particulars. -/
def title : CallError → String
  | .connectionClosed _ => "ConnectionClosed"
  | .timeout _ _ => "Timeout"
  | .decode _ _ => "Decode"
  | .encode _ => "Encode"
  | .protocol _ => "Protocol"
  | .lagged _ _ => "Lagged"
  | .notFound _ => "NotFound"
  | .noResponse _ => "NoResponse"
  | .application _ => "Application"
  | .race => "Race"

def message : CallError → String
  | .connectionClosed reason => s!"connection to plugin daemon closed: {reason.message}"
  | .timeout id after =>
    s!"backwards request {id} timed out after {Duration.millis after} ms"
  | .decode id source => s!"failed to decode response for {id}: {source.message}"
  | .encode source => s!"failed to encode request: {source.message}"
  | .protocol violation => s!"protocol error: {violation.message}"
  | .lagged id skipped => s!"backwards request {id} lagged, {skipped} frame(s) dropped"
  | .notFound what => s!"not found: {what}"
  | .noResponse kind => s!"no response received for {kind.name} invocation"
  | .application message => s!"remote operation failed: {message}"
  | .race =>
    "race condition: timed invocation entered while another one is running on the same object"

/-- The error as it is told to another waiting caller.  Failures to read or to
write data are told as violations of the protocol in their own words. -/
def duplicate : CallError → CallError
  | .decode id source => .protocol (.told (CallError.decode id source).message)
  | .encode source => .protocol (.told (CallError.encode source).message)
  | e => e

end CallError

end Backchannel
