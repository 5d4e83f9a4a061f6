/-
# Backchannel.Proofs.Completion.Payload -- what a completion is asked with

The payload of a completion puts the members of the model configuration beside those of the
request.  No two of them have one key, and the parameters, whatever their names, stand inside a
member of their own.  So each part can be found in the payload and is read again as it was
(`Describes`): the configuration from the payload itself, which has members that it does not
know, and every other part from its member.  Hence a payload tells its request
(`Describes.unique`).  In its line numbers are texts, which may be read as other numbers, and
that is all that changes on the way (`Request.reread_payload`).

A model asks with that payload, in a frame of its plugin session, whether it is to stream its
answer or not (`payload_lossless`).
-/
import Backchannel.Proofs.Entities
import Backchannel.Proofs.Plugin.Runs
import Backchannel.Proofs.Timing

namespace Backchannel

set_option autoImplicit false

open Backchannel.Json

namespace Json

/-- A list that may be written as `null`, and is empty then. -/
def Decoder.orEmpty {α : Type} (d : Decoder α) : Decoder (List α) :=
  (Decoder.optional (.list d)).map fun items => items.getD []

/-- The member that is listed among others under a key of its own. -/
theorem Value.member?_ofMembers {entries : Members} (distinct : (entries.map Prod.fst).Nodup)
    {key : String} {v : Value} (listed : (key, v) ∈ entries) :
    (Value.ofMembers entries).member? key = some v :=
  (Members.get?_ofList distinct key).trans (Members.get?_of_mem distinct listed)

section

variable {read : Number → Number}

theorem Value.rereadItems_eq (vs : List Value) : rereadItems read vs = vs.map (·.reread read) := by
  induction vs with
  | nil => rfl
  | cons v vs ih => rw [rereadItems, ih, List.map_cons]

theorem Value.rereadMembers_append (ms ms' : Members) :
    rereadMembers read (ms ++ ms') = rereadMembers read ms ++ rereadMembers read ms' := by
  induction ms with
  | nil => rfl
  | cons entry ms ih => rw [List.cons_append, rereadMembers, rereadMembers, ih, List.cons_append]

theorem Members.reread_insert (key : String) (v : Value) (ms : Members) :
    Value.rereadMembers read (insert key v ms) =
      insert key (v.reread read) (Value.rereadMembers read ms) := by
  induction ms with
  | nil => rfl
  | cons entry ms ih =>
    obtain ⟨k, w⟩ := entry
    rw [Value.rereadMembers, insert, insert]
    split
    · rfl
    split
    · rfl
    · rw [Value.rereadMembers, ih]

theorem Members.reread_foldl (entries ms : Members) :
    Value.rereadMembers read (entries.foldl (fun members m => insert m.1 m.2 members) ms) =
      (Value.rereadMembers read entries).foldl (fun members m => insert m.1 m.2 members)
        (Value.rereadMembers read ms) := by
  induction entries generalizing ms with
  | nil => rfl
  | cons entry entries ih =>
    rw [List.foldl_cons, ih, reread_insert, Value.rereadMembers, List.foldl_cons]

/-- An object comes back with the members that its own come back as. -/
theorem Value.reread_ofMembers (entries : Members) :
    (Value.ofMembers entries).reread read = .ofMembers (rereadMembers read entries) := by
  have own : rereadMembers read (Members.ofList entries) =
      Members.ofList (rereadMembers read entries) := Members.reread_foldl entries []
  rw [ofMembers, reread, own, Members.ofList_ordered (Members.sorted_ofList _), ofMembers]

end

end Json

/-- A frame that asks for something is read from its line with the payload that comes back. -/
theorem OutboundFrame.parse_invoke {read : Number → Number} {sessionId : Option String}
    {r : Request} (known : r.payload.Known read)
    (fits : (invoke sessionId r).toJson.depth ≤ nestingLimit) :
    decoder.parse (invoke sessionId r).toLine =
      .ok (invoke sessionId { r with payload := r.payload.reread read }) := by
  have own : (invoke sessionId r).data.Known read := by
    intro n among
    rw [invoke, Envelope.toJson_members, Request.toJson_members] at among
    simp only [Value.numbers, Value.numbersMembers, Kind.toJson, List.append_nil,
      List.nil_append] at among
    exact known n among
  have again : (invoke sessionId r).data.reread read =
      (invoke sessionId { r with payload := r.payload.reread read }).data := by
    rw [invoke, Envelope.toJson, Value.reread_ofMembers]
    simp only [Value.rereadMembers, Request.toJson, Value.reread_ofMembers]
    rfl
  have parsed := ((invoke sessionId r).toLine_rereads own).result.mpr fits
  rwa [again] at parsed

namespace Completion

namespace Request

variable {α : Type} {d : Decoder α} {write : α → Value}

theorem listOrNull_null_iff (as : List α) : listOrNull (as.map write) = .null ↔ as = [] := by
  cases as with
  | nil => exact iff_of_true rfl rfl
  | cons a as => exact iff_of_false Value.noConfusion (List.cons_ne_nil a as)

theorem listOrNull_ofValue (all : ∀ a, d.ofValue (write a) = .ok a) (as : List α) :
    d.orEmpty.ofValue (listOrNull (as.map write)) = .ok as := by
  cases as with
  | nil => rfl
  | cons a as =>
    have items : (Decoder.optional (.list d)).ofValue (.list ((a :: as).map write)) =
        .ok (some (a :: as)) := Decoder.optional_some Value.noConfusion (Decoder.list_ofValue all _)
    exact congrArg (Except.map fun items => items.getD []) items

end Request

/-- What a payload tells of the request it was made of, and whether it asks for a stream. -/
structure Describes (payload : Value) (r : Request) (stream : Bool) : Prop where
  config : ModelConfig.decoder.ofValue payload = .ok r.config
  messages : ∃ v, payload.member? "prompt_messages" = some v ∧
    (Decoder.list Message.decoder).ofValue v = .ok r.messages
  tools : ∃ v, payload.member? "tools" = some v ∧ (v = .null ↔ r.tools = []) ∧
    Tool.decoder.orEmpty.ofValue v = .ok r.tools
  stop : ∃ v, payload.member? "stop" = some v ∧ (v = .null ↔ r.stop = []) ∧
    Decoder.text.orEmpty.ofValue v = .ok r.stop
  stream : payload.member? "stream" = some (.bool stream)

/-- A payload tells one request only. -/
theorem Describes.unique {payload : Value} {r r' : Request} {stream stream' : Bool}
    (h : Describes payload r stream) (h' : Describes payload r' stream') :
    r = r' ∧ stream = stream' := by
  have config : r.config = r'.config := Except.ok.inj (h.config.symm.trans h'.config)
  have messages : r.messages = r'.messages := by
    obtain ⟨v, own, read⟩ := h.messages
    obtain ⟨w, own', read'⟩ := h'.messages
    cases own.symm.trans own'
    exact Except.ok.inj (read.symm.trans read')
  have tools : r.tools = r'.tools := by
    obtain ⟨v, own, -, read⟩ := h.tools
    obtain ⟨w, own', -, read'⟩ := h'.tools
    cases own.symm.trans own'
    exact Except.ok.inj (read.symm.trans read')
  have stop : r.stop = r'.stop := by
    obtain ⟨v, own, -, read⟩ := h.stop
    obtain ⟨w, own', -, read'⟩ := h'.stop
    cases own.symm.trans own'
    exact Except.ok.inj (read.symm.trans read')
  have flag : stream = stream' := Value.bool.inj (Option.some.inj (h.stream.symm.trans h'.stream))
  obtain ⟨_, _, _, _⟩ := r
  obtain ⟨_, _, _, _⟩ := r'
  cases config
  cases messages
  cases tools
  cases stop
  exact ⟨rfl, flag⟩

namespace Request

/-- The members of a payload beside those of the configuration. -/
def others (r : Request) (stream : Bool) : Members :=
  [("prompt_messages", .list (r.messages.map Message.toJson)),
    ("tools", listOrNull (r.tools.map Tool.toJson)), ("stop", listOrNull (r.stop.map Value.text)),
    ("stream", .bool stream)]

theorem payload_describes (r : Request) (stream : Bool) :
    Describes (r.payload stream) r stream := by
  have distinct : ["provider", "model", "mode", "completion_params", "prompt_messages", "tools",
      "stop", "stream"].Nodup := by decide
  have member {key : String} {v : Value} (listed : (key, v) ∈ r.others stream) :
      (r.payload stream).member? key = some v := by
    refine Value.member?_ofMembers ?_ (List.mem_append_right r.config.members listed)
    exact distinct
  refine ⟨?_, ?_, ?_, ?_, ?_⟩
  · refine Decoder.record_ofMembers (r.others stream) ?_ [.text r.config.provider,
      .text r.config.model, .text r.config.mode, .object r.config.params]
      (r.config.provider, r.config.model, r.config.mode, r.config.params, ())
      ⟨rfl, rfl, rfl, rfl, trivial⟩
    exact distinct
  · exact ⟨_, member (.head _), Message.list_ofValue r.messages⟩
  · exact ⟨_, member (.tail _ (.head _)), listOrNull_null_iff r.tools,
      listOrNull_ofValue Tool.ofValue_toJson r.tools⟩
  · exact ⟨_, member (.tail _ (.tail _ (.head _))), listOrNull_null_iff r.stop,
      listOrNull_ofValue Decoder.text_ofValue r.stop⟩
  · exact member (.tail _ (.tail _ (.tail _ (.head _))))

end Request

/-! ## What comes back of a request

The numbers in what a request only passes on may come back as others when they are read from a
text. -/

section

variable (read : Number → Number)

def ModelConfig.reread (c : ModelConfig) : ModelConfig :=
  { c with params := .ofList (Value.rereadMembers read c.params) }

def Message.reread (m : Message) : Message := { m with content := m.content.reread read }

def Tool.reread (t : Tool) : Tool := { t with parameters := t.parameters.reread read }

/-- A request as it comes back when each number comes back as `read` says. -/
def Request.reread (r : Request) : Request :=
  { r with config := r.config.reread read, messages := r.messages.map (·.reread read),
           tools := r.tools.map (·.reread read) }

theorem ModelConfig.reread_members (c : ModelConfig) :
    Value.rereadMembers read c.members = (c.reread read).members := rfl

theorem Message.reread_toJson (m : Message) :
    m.toJson.reread read = (m.reread read).toJson := by
  obtain ⟨role, content, name⟩ := m
  rw [toJson, Value.reread_ofMembers, toJson]
  cases name <;> rfl

theorem Tool.reread_toJson (t : Tool) : t.toJson.reread read = (t.reread read).toJson := by
  rw [toJson, Value.reread_ofMembers]
  rfl

theorem Request.reread_listOrNull {α : Type} {write : α → Value} {again : α → α}
    (each : ∀ a, (write a).reread read = write (again a)) (as : List α) :
    (listOrNull (as.map write)).reread read = listOrNull ((as.map again).map write) := by
  cases as with
  | nil => rfl
  | cons a as =>
    have items : Value.rereadItems read ((a :: as).map write) = ((a :: as).map again).map write := by
      rw [Value.rereadItems_eq, List.map_map, List.map_map]
      exact List.map_congr_left fun b _ => each b
    exact congrArg Value.list items

theorem Request.reread_payload (r : Request) (stream : Bool) :
    (r.payload stream).reread read = (r.reread read).payload stream := by
  have messages : Value.rereadItems read (r.messages.map Message.toJson) =
      (r.reread read).messages.map Message.toJson := by
    rw [Value.rereadItems_eq, List.map_map, reread, List.map_map]
    exact List.map_congr_left fun m _ => m.reread_toJson read
  have tools := reread_listOrNull read (Tool.reread_toJson read) r.tools
  have texts (s : String) : (Value.text s).reread read = .text (id s) := rfl
  have stop := reread_listOrNull read texts r.stop
  rw [List.map_id] at stop
  rw [payload, Value.reread_ofMembers, Value.rereadMembers_append, ModelConfig.reread_members,
    payload]
  simp only [Value.rereadMembers, Value.reread, messages, tools, stop]
  rfl

end

/-- The frame that asks for a completion. -/
def Request.frame (r : Request) (sessionId : Option String) (id : RequestId) (stream : Bool) :
    OutboundFrame := .invoke sessionId ⟨.llm, id, r.payload stream⟩

end Completion

namespace Plugin

variable {p : Plugin} {model : ModelName}

/-- A model that is idle hands the line of its request to the writer. -/
theorem requestTimed_idle (governed : p.session.Governed) (opened : p.session.status = .opened)
    (idle : p.timing.isRunning model = false) (id : RequestId) (kind : Kind) (payload : Value)
    (h : Held) :
    (p.requestTimed id model kind payload h).1 = .ok () ∧
      (p.requestTimed id model kind payload h).2.session.outbox = p.session.outbox ++
        [(OutboundFrame.invoke ((p.models.get? model).getD none) ⟨kind, id, payload⟩).toLine] := by
  obtain ⟨timing, entered⟩ : ∃ timing, p.timing.enter id model p.now = .ok timing := by
    cases own : p.timing.contexts.get? model with
    | none => exact ⟨_, Timing.enter_of_none own id p.now⟩
    | some family => exact ⟨_, Timing.enter_of_idle own idle id p.now⟩
  have sent := governed.send_of_open (by rw [opened]; rfl) id ((p.models.get? model).getD none)
    kind payload
  simp only [requestTimed, entered, request, sent, true_and]
  rfl

/-- A completion is asked for without a stream, and a stream with one. -/
theorem completion_frames (governed : p.session.Governed) (opened : p.session.status = .opened)
    (idle : p.timing.isRunning model = false) (id : RequestId) (r : Completion.Request) :
    (∀ sessionId, (p.start id sessionId (.completion model r)).session.outbox =
      p.session.outbox ++ [(r.frame ((p.models.get? model).getD none) id false).toLine]) ∧
    (p.actPlugin (.stream id model r)).2.session.outbox =
      p.session.outbox ++ [(r.frame ((p.models.get? model).getD none) id true).toLine] := by
  refine ⟨fun sessionId => ?_, ?_⟩
  · obtain ⟨taken, outbox⟩ := requestTimed_idle governed opened idle id .llm (r.payload false)
      (.running (.completion model r))
    rw [start]
    dsimp only
    rw [taken]
    exact outbox
  · rw [actPlugin, accepted_snd]
    exact (requestTimed_idle governed opened idle id .llm (r.payload true) _).2

end Plugin

/-- The frame that asks a model for a completion carries a request of that kind whose payload
describes what was asked for, to the last parameter, message, tool and stop word, and says
whether a stream is wanted.  The line of the frame is read as the frame that asks for the same,
but that its numbers are what their texts are read as, and nothing changes if they come back as
they are.  Two requests have one payload only if they are the same and both want a stream, or
neither does.  And it is these frames that a plugin hands to its writer, with `false` where it
waits for the whole completion and with `true` where it opens a stream. -/
theorem payload_lossless :
    (∀ (r : Completion.Request) sessionId id stream,
      ∃ q, (r.frame sessionId id stream).request? = some q ∧ q.kind = .llm ∧ q.id = id ∧
        Completion.Describes q.payload r stream) ∧
    (∀ (r : Completion.Request) sessionId id stream read, (r.payload stream).Known read →
      (r.frame sessionId id stream).toJson.depth ≤ nestingLimit →
      OutboundFrame.decoder.parse (r.frame sessionId id stream).toLine =
        .ok ((r.reread read).frame sessionId id stream)) ∧
    (∀ (r : Completion.Request) stream read, (r.payload stream).Ordered →
      (r.payload stream).Fixed read → r.reread read = r) ∧
    (∀ (r r' : Completion.Request) stream stream', r.payload stream = r'.payload stream' →
      r = r' ∧ stream = stream') ∧
    ∀ settings actions model id (r : Completion.Request),
      let p := Plugin.acts actions (Plugin.launch settings)
      p.session.status = .opened → p.timing.isRunning model = false →
      (∀ sessionId, (p.start id sessionId (.completion model r)).session.outbox =
        p.session.outbox ++ [(r.frame ((p.models.get? model).getD none) id false).toLine]) ∧
      (p.actPlugin (.stream id model r)).2.session.outbox =
        p.session.outbox ++ [(r.frame ((p.models.get? model).getD none) id true).toLine] := by
  have unique {r r' : Completion.Request} {stream stream' : Bool}
      (same : r.payload stream = r'.payload stream') : r = r' ∧ stream = stream' :=
    (r.payload_describes stream).unique (same ▸ r'.payload_describes stream')
  refine ⟨fun r sessionId id stream => ?_, fun r sessionId id stream read known fits => ?_,
    fun r stream read ordered fixed => ?_, fun r r' stream stream' => unique, ?_⟩
  · exact ⟨_, OutboundFrame.request?_invoke sessionId _, rfl, rfl, r.payload_describes stream⟩
  · rw [Completion.Request.frame, OutboundFrame.parse_invoke known fits, r.reread_payload read]
    rfl
  · have same := (r.reread_payload read stream).symm.trans (Value.reread_fixed _ ordered fixed)
    exact (unique same).1
  · intro settings actions model id r p opened idle
    obtain ⟨ms, run⟩ := Plugin.always_run settings actions
    have sound : p.session.Sound := run ▸ Session.sound_run settings ms
    exact Plugin.completion_frames sound.toGoverned opened idle id r

/-- A request whose parameters have the names of other members. -/
def Completion.Request.nested : Completion.Request :=
  ⟨⟨"acme", "m", "chat", [("model", .text "other"), ("stream", .bool true), ("tools", .null)]⟩,
    [.ofText .user "hi"], [], ["."]⟩

theorem Completion.Request.nested_payload :
    nested.payload false = .object
      [("completion_params", .object
          [("model", .text "other"), ("stream", .bool true), ("tools", .null)]),
        ("mode", .text "chat"), ("model", .text "m"),
        ("prompt_messages", .list [.object [("content", .text "hi"), ("role", .text "user")]]),
        ("provider", .text "acme"), ("stop", .list [.text "."]), ("stream", .bool false),
        ("tools", .null)] := by
  decide

theorem Completion.Request.nested_exact : (nested.payload false).Exact := by
  have params : ["model", "stream", "tools"].Pairwise (· < ·) := by decide
  have message : ["content", "role"].Pairwise (· < ·) := by decide
  have all : ["completion_params", "mode", "model", "prompt_messages", "provider", "stop", "stream",
    "tools"].Pairwise (· < ·) := by decide
  rw [nested_payload]
  constructor
  · exact ⟨all, ⟨params, trivial, trivial, trivial, trivial⟩, trivial, trivial,
      ⟨⟨message, trivial, trivial, trivial⟩, trivial⟩, trivial, ⟨trivial, trivial⟩, trivial, trivial,
      trivial⟩
  · intro n among
    exact absurd among List.not_mem_nil

theorem nested_lossless :
    (∃ q, (Completion.Request.nested.frame none "r1" false).request? = some q ∧
      Completion.Describes q.payload Completion.Request.nested false) ∧
    OutboundFrame.decoder.parse (Completion.Request.nested.frame none "r1" false).toLine =
      .ok (Completion.Request.nested.frame none "r1" false) ∧
    (∀ stream, Completion.Request.nested.payload stream = Completion.Request.nested.payload false →
      stream = false) ∧
    ((Plugin.launch ⟨5, none, 2⟩).actPlugin
        (.stream "r1" "m" Completion.Request.nested)).2.session.outbox =
      [(Completion.Request.nested.frame none "r1" true).toLine] := by
  obtain ⟨carried, written, kept, unique, asked⟩ := payload_lossless
  obtain ⟨q, own, -, -, describes⟩ := carried Completion.Request.nested none "r1" false
  have whole := Completion.Request.nested_exact
  have line := written Completion.Request.nested none "r1" false id whole.known (by decide)
  rw [kept Completion.Request.nested false id whole.1 fun _ _ => rfl] at line
  refine ⟨⟨q, own, describes⟩, line, fun stream same => (unique _ _ stream false same).2, ?_⟩
  exact (asked ⟨5, none, 2⟩ [] "m" "r1" Completion.Request.nested rfl rfl).2

end Backchannel
