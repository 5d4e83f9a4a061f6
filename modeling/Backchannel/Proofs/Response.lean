/-
# Backchannel.Proofs.Response -- what the line of a response comes to

The line of a response is read in two ways: by a session, which trims the end of the line and
looks for the request it names, and by who reads the body of an exchange, and trims blanks on
both sides.  Both find the same frame in it and the same response (`Response.ofLine_toLine`),
as long as the frame does not nest too deeply.  The response is the one that was written, but
that its data is what was read of it (`Response.readBack`), and that there is none where that
is `null`.
-/
import Backchannel.Http.Replies
import Backchannel.Proofs.Frame
import Backchannel.Proofs.Json.Real
import Backchannel.Proofs.Text.Utf8

namespace Backchannel

set_option autoImplicit false

open Backchannel.Text (IsLine)
open Backchannel.Text.Utf8 (Bytes bytesOf)

namespace Json

/-! ## Values that are read back -/

/-- What the text of a number is read as. -/
noncomputable def Number.readBack (n : Number) : Number := Classical.choose n.exists_readsAs

theorem Value.known_readBack (v : Value) : v.Known Number.readBack :=
  fun n _ => Classical.choose_spec n.exists_readsAs

/-- What the text of a value is read as. -/
noncomputable def Value.readBack (v : Value) : Value := v.reread Number.readBack

/-- The text of an object ends with its brace. -/
theorem Value.write_object_end (members : Members) :
    ∃ inside, (Value.object members).write [] = '{' :: inside ++ ['}'] := by
  have later : ∀ ms : Members, ∃ inside, writeMembers ms [] = inside ++ ['}'] := by
    intro ms
    induction ms with
    | nil => exact ⟨[], rfl⟩
    | cons entry ms ih =>
      obtain ⟨k, v⟩ := entry
      obtain ⟨inside, ends⟩ := ih
      refine ⟨',' :: writeText k (':' :: v.write inside), ?_⟩
      rw [writeMembers, ends, writeText_append, write_append v, writeText_append k (':' :: _),
        write_append v inside]
      simp
  cases members with
  | nil => exact ⟨[], rfl⟩
  | cons entry ms =>
    obtain ⟨k, v⟩ := entry
    obtain ⟨inside, ends⟩ := later ms
    refine ⟨writeText k (':' :: v.write inside), ?_⟩
    rw [write, ends, writeText_append, write_append v, writeText_append k (':' :: _),
      write_append v inside]
    simp

end Json

open Json

/-! ## Responses as data -/

namespace Response

theorem toJson_members (r : Response) :
    r.toJson = .object [("backwards_request_id", .text r.id),
      ("data", .ofOption (fun v => v) r.data), ("event", .text r.event.name),
      ("message", .text r.message)] := by
  rw [toJson, Value.ofMembers, Members.ofList, List.foldl_cons, List.foldl_cons, List.foldl_cons,
    List.foldl_cons, List.foldl_nil, Members.insert_nil,
    Members.insert_behind (show "backwards_request_id" < "event" by decide), Members.insert_nil,
    Members.insert_behind (show "backwards_request_id" < "message" by decide),
    Members.insert_behind (show "event" < "message" by decide), Members.insert_nil,
    Members.insert_behind (show "backwards_request_id" < "data" by decide),
    Members.insert_before (show "data" < "event" by decide)]

/-- What stands for data, and none where that is `null`. -/
def dataIn : Value → Option Value
  | .null => none
  | v => some v

/-- A response as it is read from what was written. -/
noncomputable def readBack (r : Response) : Response :=
  { r with data := dataIn (Value.ofOption (fun v => v) r.data).readBack }

theorem readBack_toJson (r : Response) :
    r.toJson.readBack = .object [("backwards_request_id", .text r.id),
      ("data", (Value.ofOption (fun v => v) r.data).readBack), ("event", .text r.event.name),
      ("message", .text r.message)] := by
  rw [toJson_members, Value.readBack, Value.reread]
  refine congrArg Value.object (Members.ofList_ordered ?_)
  simp only [Value.rereadMembers, List.map_cons, List.map_nil]
  decide

theorem event_ofValue (e : ResponseEvent) :
    ResponseEvent.decoder.ofValue (.text e.name) = .ok e := by
  cases e <;> rfl

/-- The members of a response make up the response, whatever stands for its data. -/
theorem ofValue_members (r : Response) (data : Value) :
    decoder.ofValue (.object [("backwards_request_id", .text r.id), ("data", data),
      ("event", .text r.event.name), ("message", .text r.message)]) =
        .ok { r with data := dataIn data } := by
  have optional : (Decoder.optional .value).ofValue data = .ok (dataIn data) := by
    cases data <;> rfl
  simp [decoder, Decoder.record, Fields.ofMembers, Fields.offer, Fields.finish, Fields.empty,
    Fields.required, Fields.defaulted, Decoder.text, event_ofValue, optional, Except.map, bind,
    Except.bind, pure, Except.pure]

/-- The data of a response frame that was written is the response. -/
theorem ofValue_readBack (r : Response) :
    decoder.ofValue r.toJson.readBack = .ok r.readBack := by
  rw [readBack_toJson]
  exact r.ofValue_members _

theorem isTerminal_readBack {r : Response} (terminal : r.isTerminal = true) :
    r.readBack.isTerminal = true := by
  obtain ⟨id, event, message, data⟩ := r
  cases event with
  | error | finish => rfl
  | response =>
    cases data with
    | none => rfl
    | some v => cases terminal

end Response

/-! ## The line of a response -/

theorem trimRight_lineFeed {drop : Char → Bool} (dropped : drop '\n' = true)
    (kept : drop '}' = false) (cs : List Char) :
    Text.trimRight drop (cs ++ ['}'] ++ ['\n']) = cs ++ ['}'] := by
  simp [Text.trimRight, dropped, kept]

/-- Of the line of an object a session reads the object. -/
theorem Notice.ofText_object (inside : List Char) :
    Notice.ofText ('{' :: inside ++ ['}'] ++ ['\n']) =
      match InboundFrame.decoder.parse (String.ofList ('{' :: inside ++ ['}'])) with
      | .ok f => Notice.ofFrame f
      | .error _ => .nothing := by
  have trimmed := @trimRight_lineFeed isLineEnd (by decide) (by decide) ('{' :: inside)
  have visible : ('{' :: inside ++ ['}']).all Text.isBlank = false := by
    rw [List.cons_append, List.all_cons, show Text.isBlank '{' = false by decide, Bool.false_and]
  unfold Notice.ofText
  dsimp only
  rw [trimmed]
  exact if_neg (by rw [visible]; exact Bool.false_ne_true)

/-- And so does who reads a body. -/
theorem Http.LineContent.ofText_object (inside : List Char) :
    Http.LineContent.ofText ('{' :: inside ++ ['}'] ++ ['\n']) =
      match InboundFrame.decoder.parse (String.ofList ('{' :: inside ++ ['}'])) with
      | .error e => .fault (.notFrame e)
      | .ok f =>
        if f.event ≠ .response then .nothing
        else
          match Response.decoder.ofValue f.data with
          | .ok r => .reply r.reply
          | .error how => .fault (.notResponse how) := by
  have left : ('{' :: inside ++ ['}'] ++ ['\n']).dropWhile Text.isBlank =
      '{' :: inside ++ ['}'] ++ ['\n'] :=
    List.dropWhile_cons_of_neg (by decide)
  have right := @trimRight_lineFeed Text.isBlank (by decide) (by decide) ('{' :: inside)
  have trimmed : Text.trimBoth Text.isBlank ('{' :: inside ++ ['}'] ++ ['\n']) =
      '{' :: inside ++ ['}'] := by
    rw [Text.trimBoth, left]
    exact right
  unfold Http.LineContent.ofText
  dsimp only
  rw [trimmed]
  exact if_neg Bool.false_ne_true

/-- The text of a frame, but for the end of its line, is that of an object. -/
theorem toLine_object (f : InboundFrame) :
    ∃ inside, (Value.object (frameMembers f.sessionId f.event.name f.data)).write [] =
        '{' :: inside ++ ['}'] ∧
      bytesOf f.toLine = Text.Utf8.encode ('{' :: inside ++ ['}'] ++ ['\n']) := by
  obtain ⟨inside, ends⟩ := Value.write_object_end (frameMembers f.sessionId f.event.name f.data)
  refine ⟨inside, ends, ?_⟩
  rw [bytesOf, InboundFrame.toLine, frameLine, String.toList_ofList, Value.write_append, ends]

theorem parse_object (f : InboundFrame) (fits : f.toJson.depth ≤ nestingLimit) :
    InboundFrame.decoder.parse
        (String.ofList ((Value.object (frameMembers f.sessionId f.event.name f.data)).write [])) =
      .ok { f with data := f.data.readBack } := by
  rw [InboundFrame.toJson, depth_frame] at fits
  exact Decoder.parse_of_outcome
    ((outcome_frame f.data.known_readBack (InboundEvent.decoder_name f.event) f.sessionId).trans
      (if_pos fits)) rfl

/-- The line of a response is read by a session and out of a body as the same response. -/
theorem Response.ofLine_toLine (sessionId : Option String) (r : Response)
    (fits : (InboundFrame.ofResponse sessionId r).toJson.depth ≤ nestingLimit) :
    Notice.ofLine (bytesOf (InboundFrame.ofResponse sessionId r).toLine) = .response r.readBack ∧
      Http.LineContent.ofLine (bytesOf (InboundFrame.ofResponse sessionId r).toLine) =
        .reply r.readBack.reply := by
  obtain ⟨inside, text, bytes⟩ := toLine_object (.ofResponse sessionId r)
  have parsed := parse_object (.ofResponse sessionId r) fits
  have read : decoder.ofValue (InboundFrame.ofResponse sessionId r).data.readBack =
      .ok r.readBack := r.ofValue_readBack
  rw [text] at parsed
  rw [Notice.ofLine, Http.LineContent.ofLine, bytes, Text.Utf8.decode_encode]
  dsimp only
  rw [Notice.ofText_object, Http.LineContent.ofText_object, parsed]
  dsimp only
  rw [read]
  refine ⟨?_, rfl⟩
  change Notice.ofResponseData _ = _
  rw [Notice.ofResponseData, read]

end Backchannel
