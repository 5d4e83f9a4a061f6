/-
# Backchannel.Proofs.Entities -- what travels is read as it was written

Requests, frames, responses and the entities of completions may be read from objects or from
lists, with fields missing and with fields that nobody knows, and with names written in two
ways.  They are written in one way only.  Each of them is read again, as the same, of what is
written for it (`entities_settle`), so what is handed on does not change after its first
reading, however often it is handed on.

Most of them are read again whether or not they were read before.  A response is not, which may
hold `null` for its data, and neither is a usage, whose numbers have to fit their words.
-/
import Backchannel.Completion.Entities
import Backchannel.Proofs.Json.Canonical
import Backchannel.Proofs.Received

namespace Backchannel

set_option autoImplicit false

open Backchannel.Json

theorem optionalText_ofValue (s : Option String) :
    (Decoder.optional .text).ofValue (.ofOption .text s) = .ok s :=
  Decoder.optional_ofValue Decoder.text_ofValue (fun _ => Value.noConfusion) s

/-! ## Frames -/

namespace OutboundFrame

theorem event_ofValue (e : OutboundEvent) :
    OutboundEvent.decoder.ofValue (.text e.name) = .ok e := by
  cases e <;> rfl

theorem ofValue_toJson (f : OutboundFrame) : decoder.ofValue f.toJson = .ok f :=
  Decoder.record_ofFields (by decide) [.ofOption .text f.sessionId, .text f.event.name, f.data]
    (f.sessionId, f.event, f.data, ())
    ⟨optionalText_ofValue f.sessionId, event_ofValue f.event, rfl, trivial⟩

end OutboundFrame

namespace InboundFrame

/-- The name of an event that is neither a request nor a response names no other. -/
theorem event_ofValue (e : InboundEvent) :
    InboundEvent.decoder.ofValue (.text e.name) = .ok e := by
  cases e <;> rfl

theorem ofValue_toJson (f : InboundFrame) : decoder.ofValue f.toJson = .ok f :=
  Decoder.record_ofFields (by decide) [.ofOption .text f.sessionId, .text f.event.name, f.data]
    (f.sessionId, f.event, f.data, ())
    ⟨optionalText_ofValue f.sessionId, event_ofValue f.event, rfl, trivial⟩

end InboundFrame

theorem Response.canonical : Response.decoder.Canonical Response.toJson := fun _ _ read =>
  (Response.ofValue_toJson _).trans (congrArg _ (Response.received_of_ofValue read))

/-! ## Completions -/

namespace Completion

theorem ModelConfig.ofValue_toJson (c : ModelConfig) : decoder.ofValue c.toJson = .ok c :=
  Decoder.record_ofFields (by decide)
    [.text c.provider, .text c.model, .text c.mode, .object c.params]
    (c.provider, c.model, c.mode, c.params, ()) ⟨rfl, rfl, rfl, rfl, trivial⟩

theorem Role.ofValue_name (r : Role) : decoder.ofValue (.text r.name) = .ok r := by
  cases r <;> rfl

/-- A message without a name does not write one, and what is not written is absent. -/
theorem Message.ofValue_toJson (m : Message) : decoder.ofValue m.toJson = .ok m := by
  obtain ⟨role, content, name⟩ := m
  cases name with
  | none =>
    exact Decoder.record_ofFields (by decide) [.text role.name, content] (role, content, none, ())
      ⟨role.ofValue_name, rfl, rfl, trivial⟩
  | some name =>
    exact Decoder.record_ofFields (by decide) [.text role.name, content, .text name]
      (role, content, some name, ())
      ⟨role.ofValue_name, rfl, optionalText_ofValue (some name), trivial⟩

theorem Message.list_ofValue (ms : List Message) :
    (Decoder.list decoder).ofValue (.list (ms.map toJson)) = .ok ms :=
  Decoder.list_ofValue ofValue_toJson ms

theorem Tool.ofValue_toJson (t : Tool) : decoder.ofValue t.toJson = .ok t :=
  Decoder.record_ofFields (by decide) [.text t.name, .text t.description, t.parameters]
    (t.name, t.description, t.parameters, ()) ⟨rfl, rfl, rfl, trivial⟩

/-- A count is read again, whether it was read or is zero for want of one. -/
theorem count_ofValue {bound n : Nat} (words : bound ≤ Numeric.wordValues 64)
    (positive : 0 < bound) {expected : String}
    (stems : (∃ v, (Decoder.natBelow bound expected).ofValue v = .ok n) ∨ some 0 = some n ∨
      (Decoder.natBelow bound expected).absent = some n) :
    (Decoder.natBelow bound expected).ofValue (.ofNat n) = .ok n := by
  obtain ⟨v, read⟩ | default | absent := stems
  · exact Decoder.natBelow_canonical words expected read
  · cases default
    exact Decoder.natBelow_ofValue words expected positive
  · cases absent

theorem word64_ofValue {n : Nat} (stems : (∃ v, Decoder.word64.ofValue v = .ok n) ∨
    some 0 = some n ∨ Decoder.word64.absent = some n) :
    Decoder.word64.ofValue (.ofNat n) = .ok n := by
  unfold Decoder.word64 at *
  exact count_ofValue (Nat.le_refl _) (by decide) stems

theorem word32_ofValue {n : Nat} (stems : (∃ v, Decoder.word32.ofValue v = .ok n) ∨
    some 0 = some n ∨ Decoder.word32.absent = some n) :
    Decoder.word32.ofValue (.ofNat n) = .ok n := by
  unfold Decoder.word32 at *
  exact count_ofValue (by decide) (by decide) stems

namespace Usage

theorem canonical : decoder.Canonical toJson := by
  refine Decoder.record_canonical (by decide) (fun u : Usage => [.ofNat u.promptTokens,
    .ofNat u.completionTokens, .ofNat u.totalTokens, .ofReal u.latency]) ?_
  rintro ⟨prompt, completion, total, latency, u⟩ ⟨first, second, third, -, -⟩
  exact ⟨word64_ofValue first, word64_ofValue second, word64_ofValue third, rfl, trivial⟩

theorem empty_ofValue : decoder.ofValue empty.toJson = .ok empty :=
  canonical (show decoder.ofValue (.object []) = .ok empty from rfl)

/-- A usage is written as an object. -/
theorem optional_canonical : (Decoder.optional decoder).Canonical (.ofOption toJson) :=
  canonical.optional fun _ _ => Value.noConfusion

end Usage

theorem Result.canonical : decoder.Canonical toJson := by
  refine Decoder.record_canonical (by decide) (fun r : Result => [.text r.model,
    .list (r.promptMessages.map Message.toJson), r.message.toJson, r.usage.toJson,
    .ofOption .text r.systemFingerprint]) ?_
  rintro ⟨model, promptMessages, message, usage, systemFingerprint, u⟩ ⟨-, -, -, used, -, -⟩
  refine ⟨rfl, Message.list_ofValue promptMessages, message.ofValue_toJson, ?_,
    optionalText_ofValue systemFingerprint, trivial⟩
  obtain ⟨v, read⟩ | default | absent := used
  · exact Usage.canonical read
  · cases default
    exact Usage.empty_ofValue
  · cases absent

theorem Delta.canonical : decoder.Canonical toJson := by
  refine Decoder.record_canonical (by decide) (fun d : Delta => [.ofNat d.index, d.message.toJson,
    .ofOption Usage.toJson d.usage, .ofOption .text d.finishReason]) ?_
  rintro ⟨index, message, usage, finishReason, u⟩ ⟨counted, -, used, -, -⟩
  refine ⟨word32_ofValue counted, message.ofValue_toJson, ?_,
    optionalText_ofValue finishReason, trivial⟩
  obtain ⟨v, read⟩ | default | absent := used
  · exact Usage.optional_canonical read
  · cases default
    rfl
  · cases absent
    rfl

theorem Chunk.canonical : decoder.Canonical toJson := by
  refine Decoder.record_canonical (by decide) (fun c : Chunk => [.text c.model,
    .list (c.promptMessages.map Message.toJson), .ofOption .text c.systemFingerprint,
    c.delta.toJson]) ?_
  rintro ⟨model, promptMessages, systemFingerprint, delta, u⟩ ⟨-, -, -, changed, -⟩
  refine ⟨rfl, Message.list_ofValue promptMessages, optionalText_ofValue systemFingerprint, ?_,
    trivial⟩
  obtain ⟨v, read⟩ | default | absent := changed
  · exact Delta.canonical read
  · cases default
  · cases absent

end Completion

/-- Every request, frame, response and entity of a completion that is read, from an object or a
list, with fields to spare or missing, is written such that it is read again as the same.  So
however often it is handed on, what is written is what was written first. -/
theorem entities_settle :
    Request.decoder.Settles Request.toJson ∧
    OutboundFrame.decoder.Settles OutboundFrame.toJson ∧
    InboundFrame.decoder.Settles InboundFrame.toJson ∧
    Response.decoder.Settles Response.toJson ∧
    Completion.ModelConfig.decoder.Settles Completion.ModelConfig.toJson ∧
    Completion.Message.decoder.Settles Completion.Message.toJson ∧
    Completion.Tool.decoder.Settles Completion.Tool.toJson ∧
    Completion.Usage.decoder.Settles Completion.Usage.toJson ∧
    Completion.Result.decoder.Settles Completion.Result.toJson ∧
    Completion.Chunk.decoder.Settles Completion.Chunk.toJson :=
  ⟨(Decoder.Canonical.of_forall Request.ofValue_toJson).settles,
    (Decoder.Canonical.of_forall OutboundFrame.ofValue_toJson).settles,
    (Decoder.Canonical.of_forall InboundFrame.ofValue_toJson).settles,
    Response.canonical.settles,
    (Decoder.Canonical.of_forall Completion.ModelConfig.ofValue_toJson).settles,
    (Decoder.Canonical.of_forall Completion.Message.ofValue_toJson).settles,
    (Decoder.Canonical.of_forall Completion.Tool.ofValue_toJson).settles,
    Completion.Usage.canonical.settles, Completion.Result.canonical.settles,
    Completion.Chunk.canonical.settles⟩

/-- A completion that was written as a list, with its message's role as the only key of an
object, a field that nobody knows, a whole number for the latency and no fingerprint, is handed
on as an object with all its fields. -/
theorem result_relayed :
    let message : Value := .object [("role", .object [("user", .null)]), ("urgent", .bool true)]
    let v : Value := .list [.text "m", .list [], message, .object [("latency", .ofInt 3)]]
    let r : Completion.Result :=
      ⟨"m", [], ⟨.user, .null, none⟩, ⟨0, 0, 0, Numeric.Binary64.ofInt 3⟩, none⟩
    Completion.Result.decoder.ofValue v = .ok r ∧
      Completion.Result.decoder.ofValue r.toJson = .ok r ∧ v ≠ r.toJson ∧
      ∀ n, Completion.Result.decoder.relay Completion.Result.toJson (n + 1) v = .ok r.toJson := by
  intro message v r
  have read : Completion.Result.decoder.ofValue v = .ok r := rfl
  obtain ⟨-, -, -, -, -, -, -, -, results, -⟩ := entities_settle
  obtain ⟨again, relayed⟩ := results v r read
  exact ⟨read, again, Value.noConfusion, relayed⟩

end Backchannel
