/-
# Backchannel.Proofs.Frame -- frames read from their lines

A frame is written with its fields in the order of their declaration, its data last, and is
read by the decoder of its direction straight from the text.  The session id and the event
are read as they were written, so what can fail is the data alone, where it is nested more
deeply than there is room for behind the brace of the frame (`outcome_frame`).

A request comes out of the data of its frame by its envelope.  The tag of an envelope is its
member `type`, or the first item of it where it is a list (`Envelope.tagIn?`); under another
tag there is no request.
-/
import Backchannel.Frame
import Backchannel.Proofs.Json.OneLine
import Backchannel.Proofs.Json.Reread
import Backchannel.Proofs.Notice
import Backchannel.Proofs.Text.Lines

namespace Backchannel

set_option autoImplicit false

namespace Json

/-! ## Shapes read from what was written -/

variable {room : Nat} {rest : List Char}

theorem Decoder.text_write (s : String) :
    Decoder.text.ofText room (writeText s rest) = .ok (s, rest) :=
  readText_write s rest

theorem Decoder.optional_text_write (s : Option String) :
    (Decoder.optional .text).ofText room ((Value.ofOption .text s).write rest) = .ok (s, rest) := by
  cases s with
  | none => rfl
  | some s =>
    change (Decoder.text.ofText room (writeText s rest)).map (fun r => (some r.1, r.2)) = _
    rw [text_write]
    rfl

/-- A listed name is read as what it names, any other as what stands for those. -/
theorem Decoder.oneOf_write {α : Type} {names : List (String × α)} {other : Option α}
    {name : String} {a : α}
    (listed : ((names.find? fun entry => entry.1 == name).map Prod.snd).or other = some a) :
    (Decoder.oneOf names other).ofText room (writeText name rest) = .ok (a, rest) := by
  simp only [oneOf, writeText, skipBlank_cons (show isJsonBlank '"' = false by decide),
    readText_write, bind, Except.bind]
  cases found : (names.find? fun entry => entry.1 == name).map Prod.snd with
  | none =>
    rw [found] at listed
    cases other with
    | none => cases listed
    | some b => cases listed; rfl
  | some b =>
    rw [found] at listed
    cases listed
    rfl

/-- A written member is read into the field of its key. -/
theorem Fields.membersOfText_member {τ σ : Type} {fs : Fields τ σ} {fuel : Nat} {first : Bool}
    {slots : σ} {s written : List Char} {key : String} {result : Except Fault (σ × List Char)}
    (more : nextKey first s = .ok (true, writeChars key.toList (':' :: written)))
    (offered : fs.offer key (fun shape => shape.ofText room written) slots = .known result) :
    fs.membersOfText room (fuel + 1) first slots s =
      result >>= fun r => fs.membersOfText room fuel false r.1 r.2 := by
  simp only [membersOfText, more, readText_write, readColon_colon, bind, Except.bind, if_true,
    offered]

/-- A record is read where there is room for it and for what its fields hold. -/
theorem outcome_record {τ σ α : Type} {label : String} {fs : Fields τ σ} {build : τ → α}
    {depth : Nat} {s : List Char} {a : τ}
    (inside : ∀ room, outcome (fs.membersOfText room (s.length + 1) true fs.empty s) =
      within depth room (a, '}' :: rest)) :
    outcome ((Decoder.record label fs build).ofText room ('{' :: s)) =
      within (depth + 1) room (build a, rest) := by
  cases room with
  | zero => rfl
  | succ room =>
    have opened : (Decoder.record label fs build).ofText (room + 1) ('{' :: s) =
        (fs.membersOfText room (s.length + 1) true fs.empty s).map
          fun r => (build r.1, r.2.drop 1) := by
      simp only [Decoder.record, skipBlank_cons (show isJsonBlank '{' = false by decide),
        openContainer, bind, Except.bind]
      cases fs.membersOfText room (s.length + 1) true fs.empty s <;> rfl
    rw [opened, outcome_map, inside, within_succ, within, within]
    split <;> rfl

/-- A record that is read from a list has its first field from the first item. -/
theorem Decoder.record_firstItem {α β τ σ : Type} {label name : String} {shape : Decoder α}
    {fs : Fields τ σ} {build : α × τ → β} {items : List Value} {r : β}
    (read : (Decoder.record label (.required name shape fs) build).ofValue (.list items) = .ok r) :
    ∃ v others a b, items = v :: others ∧ shape.ofValue v = .ok a ∧ r = build (a, b) := by
  cases items with
  | nil => cases read
  | cons v others =>
    cases first : shape.ofValue v with
    | error how =>
      simp [record, Fields.required, Fields.ofItems, first, bind, Except.bind] at read
    | ok a =>
      simp only [record, Fields.required, Fields.ofItems, first, bind, Except.bind] at read
      split at read
      · cases read
      · rename_i taken
        split at taken
        · cases taken
        · cases taken
          split at read
          · cases read
            exact ⟨v, others, a, _, rfl, first, rfl⟩
          · cases read

end Json

open Json

/-! ## The line of a frame -/

/-- The fields of a frame, whichever of them have defaults. -/
def frameFields {ε : Type} (event : Decoder ε) (noSession : Option (Option String))
    (noEvent : Option ε) (noData : Option Value) :
    Fields (Option String × ε × Value × Unit)
      (Option (Option String) × Option ε × Option Value × Unit) :=
  .field "session_id" (.optional .text) noSession <|
    .field "event" event noEvent <|
    .field "data" .value noData .done

section

variable {ε : Type} {event : Decoder ε} {noSession : Option (Option String)} {noEvent : Option ε}
  {noData : Option Value} {room fuel : Nat} {rest : List Char}

theorem frameFields_session (sessionId : Option String) :
    (frameFields event noSession noEvent noData).membersOfText room (fuel + 1) true
        (none, none, none, ())
        (writeText "session_id" (':' :: (Value.ofOption .text sessionId).write rest)) =
      (frameFields event noSession noEvent noData).membersOfText room fuel false
        (some sessionId, none, none, ()) rest := by
  have offered : (frameFields event noSession noEvent noData).offer "session_id"
      (fun shape => shape.ofText room ((Value.ofOption .text sessionId).write rest))
      (none, none, none, ()) = .known (.ok ((some sessionId, none, none, ()), rest)) := by
    simp [frameFields, Fields.offer, Decoder.optional_text_write, Except.map]
  rw [writeText, Fields.membersOfText_member (nextKey_first _) offered]
  rfl

theorem frameFields_event {name : String} {e : ε} (sessionId : Option (Option String))
    (named : event.ofText room (writeText name rest) = .ok (e, rest)) :
    (frameFields event noSession noEvent noData).membersOfText room (fuel + 1) false
        (sessionId, none, none, ()) (',' :: writeText "event" (':' :: writeText name rest)) =
      (frameFields event noSession noEvent noData).membersOfText room fuel false
        (sessionId, some e, none, ()) rest := by
  have offered : (frameFields event noSession noEvent noData).offer "event"
      (fun shape => shape.ofText room (writeText name rest)) (sessionId, none, none, ()) =
        .known (.ok ((sessionId, some e, none, ()), rest)) := by
    simp [frameFields, Fields.offer, named, Except.map]
  rw [writeText, Fields.membersOfText_member (nextKey_comma _) offered]
  rfl

theorem frameFields_data {read : Number → Number} {data : Value} (known : data.Known read)
    (sessionId : Option String) (e : ε) :
    outcome ((frameFields event noSession noEvent noData).membersOfText room (fuel + 2) false
        (some sessionId, some e, none, ())
        (',' :: writeText "data" (':' :: data.write ('}' :: rest)))) =
      within data.depth room ((sessionId, e, data.reread read, ()), '}' :: rest) := by
  have ends : EndsNumber ('}' :: rest) := endsNumber_cons (by decide) (by decide) (by decide)
  have offered : (frameFields event noSession noEvent noData).offer "data"
      (fun shape => shape.ofText room (data.write ('}' :: rest)))
      (some sessionId, some e, none, ()) =
        .known ((readValue room (data.write ('}' :: rest))).map fun r =>
          ((some sessionId, some e, some r.1, ()), r.2)) := by
    simp only [frameFields, Fields.offer, Decoder.value,
      show ("session_id" = "data") = False by simp, show ("event" = "data") = False by simp,
      if_false, if_true]
    cases readValue room (data.write ('}' :: rest)) <;> rfl
  rw [writeText, Fields.membersOfText_member (nextKey_comma _) offered, outcome_bind, outcome_map,
    Value.readValue_write known ends room]
  unfold within
  split
  · rfl
  · rfl

/-- A frame is read from its text if there is room for it, and fails for its depth else. -/
theorem outcome_frame {F : Type} {label : String} {build : Option String × ε × Value × Unit → F}
    {read : Number → Number} {name : String} {e : ε} {data : Value} (known : data.Known read)
    (named : ∀ room rest, event.ofText room (writeText name rest) = .ok (e, rest))
    (sessionId : Option String) :
    outcome ((Decoder.record label (frameFields event noSession noEvent noData) build).ofText room
        ((Value.object (frameMembers sessionId name data)).write rest)) =
      within (data.depth + 1) room (build (sessionId, e, data.reread read, ()), rest) := by
  let behindEvent := ',' :: writeText "data" (':' :: data.write ('}' :: rest))
  let behindSession := ',' :: writeText "event" (':' :: writeText name behindEvent)
  let inside := writeText "session_id" (':' :: (Value.ofOption .text sessionId).write behindSession)
  have written : (Value.object (frameMembers sessionId name data)).write rest = '{' :: inside := by
    simp only [frameMembers, Value.write, Value.writeMembers, inside, behindSession, behindEvent]
  obtain ⟨fuel, enough⟩ : ∃ fuel, inside.length + 1 = fuel + 4 := by
    have session : 3 ≤ inside.length :=
      Nat.le_trans (Nat.le_add_left _ _) (length_writeText_value "session_id" _)
    exact ⟨inside.length - 3, by omega⟩
  rw [written]
  refine outcome_record fun room => ?_
  change outcome (Fields.membersOfText _ room _ true (none, none, none, ()) _) = _
  rw [enough, frameFields_session, frameFields_event _ (named _ _)]
  exact frameFields_data known sessionId e

end

namespace Json

/-- What a text means to a decoder, where it nests that many containers: exactly as far as
nesting may go it is read as that, and deeper nesting is what reading fails for. -/
structure Decoder.Reads {α : Type} (d : Decoder α) (text : String) (depth : Nat) (a : α) :
    Prop where
  result : d.parse text = .ok a ↔ depth ≤ nestingLimit
  tooDeep : nestingLimit < depth → ∃ place, d.parse text = .error ⟨.malformed .tooDeep, place⟩

/-- A text is parsed as what it is read as, if nothing but blanks follows. -/
theorem Decoder.parse_of_outcome {α : Type} {d : Decoder α} {cs rest : List Char} {a : α}
    (reading : outcome (d.ofText nestingLimit cs) = .ok (a, rest)) (ends : skipBlank rest = []) :
    d.parse (String.ofList cs) = .ok a := by
  cases read : d.ofText nestingLimit cs with
  | error fault =>
    rw [read] at reading
    cases reading
  | ok r =>
    rw [read] at reading
    cases reading
    rw [parse, readWhole, String.toList_ofList, read]
    change ((expectEnd rest).bind fun _ => .ok a).mapError _ = _
    rw [expectEnd, ends]
    rfl

theorem Decoder.reads_of_outcome {α : Type} {d : Decoder α} {cs : List Char} {depth : Nat} {a : α}
    (reading : outcome (d.ofText nestingLimit cs) = within depth nestingLimit (a, ['\n'])) :
    d.Reads (String.ofList cs) depth a := by
  have fits : depth ≤ nestingLimit → d.parse (String.ofList cs) = .ok a := by
    intro fits
    rw [within, if_pos fits] at reading
    exact parse_of_outcome reading rfl
  have deep : nestingLimit < depth →
      ∃ place, d.parse (String.ofList cs) = .error ⟨.malformed .tooDeep, place⟩ := by
    intro deep
    rw [within, if_neg (Nat.not_le.mpr deep)] at reading
    cases read : d.ofText nestingLimit cs with
    | ok r => simp [read] at reading
    | error fault =>
      rw [read] at reading
      refine ⟨fault.spot.place cs, ?_⟩
      rw [parse, readWhole, String.toList_ofList, read]
      obtain ⟨cause, spot⟩ := fault
      cases reading
      rfl
  refine ⟨⟨fun same => ?_, fits⟩, deep⟩
  apply Nat.not_lt.mp
  intro beyond
  obtain ⟨place, failed⟩ := deep beyond
  rw [same] at failed
  cases failed

end Json

/-! ## Frames -/

namespace OutboundEvent

theorem decoder_name (e : OutboundEvent) (room : Nat) (rest : List Char) :
    decoder.ofText room (writeText e.name rest) = .ok (e, rest) :=
  Decoder.oneOf_write (by cases e <;> decide)

end OutboundEvent

namespace InboundEvent

/-- The name of an event that is neither a request nor a response is no name either. -/
theorem decoder_name (e : InboundEvent) (room : Nat) (rest : List Char) :
    decoder.ofText room (writeText e.name rest) = .ok (e, rest) :=
  Decoder.oneOf_write (by cases e <;> decide)

end InboundEvent

namespace Json.Value

/-- A value in good order all of whose numbers are whole. -/
def Exact (v : Value) : Prop := v.Ordered ∧ ∀ n ∈ v.numbers, ∃ i fits, n = Number.whole i fits

theorem Exact.known {v : Value} (whole : v.Exact) : v.Known id := by
  intro n among
  obtain ⟨i, fits, rfl⟩ := whole.2 n among
  exact Number.whole_readsAs i fits

theorem Exact.reread {v : Value} (whole : v.Exact) : v.reread id = v :=
  v.reread_fixed whole.1 fun _ _ => rfl

end Json.Value

/-- The members of a frame in the order of their keys. -/
theorem ofMembers_frame (sessionId : Option String) (event : String) (data : Value) :
    Value.ofMembers (frameMembers sessionId event data) =
      .object [("data", data), ("event", .text event),
        ("session_id", .ofOption .text sessionId)] := by
  rw [Value.ofMembers, Members.ofList, frameMembers, List.foldl_cons, List.foldl_cons,
    List.foldl_cons, List.foldl_nil, Members.insert_nil,
    Members.insert_before (show "event" < "session_id" by decide),
    Members.insert_before (show "data" < "event" by decide)]

theorem depth_frame (sessionId : Option String) (event : String) (data : Value) :
    (Value.ofMembers (frameMembers sessionId event data)).depth = data.depth + 1 := by
  rw [ofMembers_frame]
  cases sessionId <;> simp [Value.depth, Value.depthMembers, Value.ofOption]

/-- A frame is written as one line. -/
theorem isLine_frameLine (sessionId : Option String) (event : String) (data : Value) :
    Text.IsLine (Text.Utf8.bytesOf (frameLine sessionId event data)) := by
  have body : OneLine ((Value.object (frameMembers sessionId event data)).write []) :=
    Value.write_oneLine _ .nil
  rw [Text.Utf8.bytesOf, frameLine, String.toList_ofList, Value.write_append]
  exact Text.isLine_encode body

namespace OutboundFrame

/-- A frame comes back with the data that comes back. -/
theorem toLine_rereads (f : OutboundFrame) {read : Number → Number} (known : f.data.Known read) :
    decoder.Reads f.toLine f.toJson.depth { f with data := f.data.reread read } := by
  rw [toJson, depth_frame]
  exact Decoder.reads_of_outcome
    (outcome_frame known (OutboundEvent.decoder_name f.event) f.sessionId)

theorem toLine_reads (f : OutboundFrame) (whole : f.data.Exact) :
    decoder.Reads f.toLine f.toJson.depth f := by
  have reads := f.toLine_rereads whole.known
  rwa [whole.reread] at reads

end OutboundFrame

namespace InboundFrame

theorem toLine_reads (f : InboundFrame) (whole : f.data.Exact) :
    decoder.Reads f.toLine f.toJson.depth f := by
  rw [toJson, depth_frame]
  refine Decoder.reads_of_outcome
    ((outcome_frame whole.known (InboundEvent.decoder_name f.event) f.sessionId).trans ?_)
  rw [whole.reread]

end InboundFrame

/-! ## Requests in frames -/

theorem Kind.ofValue_toJson (k : Kind) : Kind.decoder.ofValue k.toJson = .ok k := by
  cases k <;> rfl

theorem Request.toJson_members (r : Request) :
    r.toJson = .object [("backwards_request_id", .text r.id), ("request", r.payload),
      ("type", r.kind.toJson)] := by
  rw [toJson, Value.ofMembers, Members.ofList, List.foldl_cons, List.foldl_cons, List.foldl_cons,
    List.foldl_nil, Members.insert_nil,
    Members.insert_before (show "backwards_request_id" < "type" by decide),
    Members.insert_behind (show "backwards_request_id" < "request" by decide),
    Members.insert_before (show "request" < "type" by decide)]

theorem Request.ofValue_toJson (r : Request) : decoder.ofValue r.toJson = .ok r := by
  rw [toJson_members]
  simp [decoder, Decoder.record, Fields.ofMembers, Fields.offer, Fields.finish, Fields.empty,
    Fields.required, Decoder.text, Decoder.value, Kind.ofValue_toJson, Except.map, bind,
    Except.bind, pure, Except.pure]

namespace Envelope

theorem toJson_members (e : Envelope) :
    e.toJson = .object [("data", e.request.toJson), ("type", .text e.tag)] := by
  rw [toJson, Value.ofMembers, Members.ofList, List.foldl_cons, List.foldl_cons, List.foldl_nil,
    Members.insert_nil, Members.insert_before (show "data" < "type" by decide)]

theorem ofValue_toJson (e : Envelope) : decoder.ofValue e.toJson = .ok e := by
  rw [toJson_members]
  simp [decoder, Decoder.record, Fields.ofMembers, Fields.offer, Fields.finish, Fields.empty,
    Fields.required, Decoder.text, Request.ofValue_toJson, Except.map, bind, Except.bind, pure,
    Except.pure]

/-- The tag of what stands in a frame. -/
def tagIn? : Value → Option String
  | .list (tag :: _) => tag.text?
  | v => v.member? "type" >>= Value.text?

theorem text?_of_ofValue {v : Value} {s : String} (read : Decoder.text.ofValue v = .ok s) :
    v.text? = some s := by
  cases v with
  | text t => cases read; rfl
  | _ => cases read

/-- An envelope has the tag that its data shows. -/
theorem tagIn?_of_ofValue {v : Value} {e : Envelope} (read : decoder.ofValue v = .ok e) :
    tagIn? v = some e.tag := by
  cases v with
  | object members =>
    obtain ⟨tag, own, rest, member, text, rfl⟩ := Decoder.record_first rfl read
    have shown := text?_of_ofValue text
    simp [tagIn?, Value.member?, member, shown]
  | list items =>
    obtain ⟨tag, others, own, rest, rfl, text, rfl⟩ := Decoder.record_firstItem read
    exact text?_of_ofValue text
  | _ => cases read

end Envelope

namespace OutboundFrame

/-- The frame that asks for a request carries it. -/
theorem request?_invoke (sessionId : Option String) (r : Request) :
    (invoke sessionId r).request? = some r := by
  simp [request?, invoke, Envelope.ofValue_toJson]

/-- A frame that carries a request is a session frame with the tag of requests. -/
theorem of_request? {f : OutboundFrame} {r : Request} (carried : f.request? = some r) :
    f.event = .session ∧ Envelope.tagIn? f.data = some Envelope.invokeTag := by
  unfold request? at carried
  split at carried
  · cases carried
  · rename_i session
    split at carried
    · rename_i e read
      split at carried
      · rename_i tag
        exact ⟨session, tag ▸ Envelope.tagIn?_of_ofValue read⟩
      · cases carried
    · cases carried

theorem invoke_exact {sessionId : Option String} {r : Request} (whole : r.payload.Exact) :
    (invoke sessionId r).data.Exact := by
  have data : (invoke sessionId r).data = .object [("data", .object
      [("backwards_request_id", .text r.id), ("request", r.payload), ("type", r.kind.toJson)]),
      ("type", .text Envelope.invokeTag)] := by
    rw [invoke, Envelope.toJson_members, Request.toJson_members]
  rw [data]
  refine ⟨?_, ?_⟩
  · have outer : ["data", "type"].Pairwise (· < ·) := by decide
    have inner : ["backwards_request_id", "request", "type"].Pairwise (· < ·) := by decide
    exact ⟨outer, ⟨inner, trivial, whole.1, trivial, trivial⟩, trivial, trivial⟩
  · intro n among
    simp only [Value.numbers, Value.numbersMembers, Kind.toJson, List.append_nil,
      List.nil_append] at among
    exact whole.2 n among

end OutboundFrame

/-- A frame is read from its line as it was written, exactly as far as the reader lets
containers nest; a deeper one fails for its depth.  The request that a frame was built for
comes out of what is read, and none comes out of a heartbeat or from under another tag. -/
theorem frame_roundTrip :
    (∀ sessionId r, Value.Exact r.payload →
      OutboundFrame.decoder.Reads (OutboundFrame.invoke sessionId r).toLine
          (OutboundFrame.invoke sessionId r).toJson.depth (OutboundFrame.invoke sessionId r) ∧
        ∀ f, OutboundFrame.decoder.parse (OutboundFrame.invoke sessionId r).toLine = .ok f →
          f.request? = some r) ∧
    (∀ f : InboundFrame, f.data.Exact → InboundFrame.decoder.Reads f.toLine f.toJson.depth f) ∧
    ∀ f : OutboundFrame,
      f.event = .heartbeat ∨ Envelope.tagIn? f.data ≠ some Envelope.invokeTag →
        f.request? = none := by
  refine ⟨fun sessionId r whole => ?_, InboundFrame.toLine_reads, fun f other => ?_⟩
  · have reads := OutboundFrame.toLine_reads (OutboundFrame.invoke sessionId r)
      (OutboundFrame.invoke_exact whole)
    refine ⟨reads, fun f parsed => ?_⟩
    by_cases fits : (OutboundFrame.invoke sessionId r).toJson.depth ≤ nestingLimit
    · rw [reads.result.mpr fits] at parsed
      cases parsed
      exact OutboundFrame.request?_invoke sessionId r
    · obtain ⟨place, failed⟩ := reads.tooDeep (Nat.not_le.mp fits)
      rw [failed] at parsed
      cases parsed
  · cases carried : f.request? with
    | none => rfl
    | some r =>
      obtain ⟨session, tag⟩ := OutboundFrame.of_request? carried
      rcases other with heartbeat | untagged
      · rw [session] at heartbeat
        cases heartbeat
      · exact absurd tag untagged

/-- Lists inside one another. -/
def Json.Value.nested : Nat → Value
  | 0 => .list []
  | n + 1 => .list [nested n]

theorem Json.Value.depth_nested (n : Nat) : (nested n).depth = n + 1 := by
  induction n with
  | zero => rfl
  | succ n ih => simp [nested, depth, depthItems, ih]

theorem Json.Value.exact_nested (n : Nat) : (nested n).Exact := by
  induction n with
  | zero => simp [nested, Exact, Ordered, OrderedItems, numbers, numbersItems]
  | succ n ih => simpa [nested, Exact, Ordered, OrderedItems, numbers, numbersItems] using ih

/-- The frame that asks with nested lists, which stand in three containers of its own. -/
def nestedFrame (n : Nat) : OutboundFrame := .invoke none ⟨.storage, "deep", .nested n⟩

theorem depth_nestedFrame (n : Nat) : (nestedFrame n).toJson.depth = n + 4 := by
  rw [OutboundFrame.toJson, depth_frame, nestedFrame, OutboundFrame.invoke,
    Envelope.toJson_members, Request.toJson_members]
  simp [Value.depth, Value.depthMembers, Value.depth_nested, Kind.toJson]

theorem nestedFrame_boundary :
    OutboundFrame.decoder.parse (nestedFrame 123).toLine = .ok (nestedFrame 123) ∧
      ∃ place, OutboundFrame.decoder.parse (nestedFrame 124).toLine =
        .error ⟨.malformed .tooDeep, place⟩ := by
  refine ⟨((frame_roundTrip.1 none ⟨.storage, "deep", .nested 123⟩
    (Value.exact_nested 123)).1.result.mpr ?_), (frame_roundTrip.1 none
    ⟨.storage, "deep", .nested 124⟩ (Value.exact_nested 124)).1.tooDeep ?_⟩
  · exact Nat.le_of_eq (depth_nestedFrame 123)
  · exact Nat.lt_of_lt_of_eq (by decide) (depth_nestedFrame 124).symm

end Backchannel
