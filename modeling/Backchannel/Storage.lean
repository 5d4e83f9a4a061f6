/-
# Backchannel.Storage -- keyed bytes that the daemon keeps

Each operation is one request and looks at its first reply only.  Values travel as
lowercase hexadecimal digits; an operation that changes something is answered with
the word `ok`.
-/
import Backchannel.CallError

namespace Backchannel.Storage

set_option autoImplicit false

open Backchannel.Json
open Backchannel.Text (Hex.encode Hex.decode)
open Backchannel.Text.Utf8 (Bytes)

inductive Operation where
  | get (key : String)
  | set (key : String) (bytes : Bytes)
  | delete (key : String)
  /-- Whether there is anything under a key. -/
  | has (key : String)
  deriving DecidableEq, Repr

/-- What a successful operation answers. -/
inductive Answer where
  | done
  | bytes (bytes : Bytes)
  | found (found : Bool)
  deriving DecidableEq, Repr

namespace Operation

def payload : Operation → Value
  | .get key => .ofMembers [("opt", .text "get"), ("key", .text key)]
  | .set key bytes =>
    .ofMembers [("opt", .text "set"), ("key", .text key), ("value", .text (Hex.encode bytes))]
  | .delete key => .ofMembers [("opt", .text "del"), ("key", .text key)]
  | .has key => .ofMembers [("opt", .text "exist"), ("key", .text key)]

end Operation

/-- The shape of a reply, of which only the data counts. -/
def replyDecoder : Decoder Value :=
  .record "StorageReply" (.defaulted "data" .value .null .done) fun (data, ()) => data

/-- The word for success. -/
def okWord : String := "ok"

/-- The daemon's word on a change. -/
def confirmed (data : Value) : Except CallError Answer :=
  match data with
  | .text s => if s = okWord then .ok .done else .error (.application s)
  | other => .error (.application other.render)

/-- The stored bytes under a key. -/
def stored (key : String) (data : Value) : Except CallError Answer :=
  match data with
  | .text digits =>
    match Hex.decode digits with
    | .ok bytes => .ok (.bytes bytes)
    | .error how => .error (.protocol (.storedNotHex key how))
  | _ => .error (.protocol (.storedNotText key))

def Operation.answer (op : Operation) (data : Value) : Except CallError Answer :=
  match op with
  | .get key => stored key data
  | .set _ _ | .delete _ => confirmed data
  | .has key =>
    match data with
    | .bool b => .ok (.found b)
    | other => .error (.protocol (.existsNotBool key other))

/-- The failure of an operation whose replies end before the first. -/
def Operation.unanswered : Operation → CallError
  | .get key | .delete key => .notFound key
  | .set _ _ => .noResponse .storage
  | .has key => .protocol (.existsUnanswered key)

/-- What an operation comes to, given the first reply. -/
def Operation.conclude (op : Operation) :
    Except CallError (Option Value) → Except CallError Answer
  | .error e => .error e
  | .ok none => .error op.unanswered
  | .ok (some data) => op.answer data

end Backchannel.Storage
