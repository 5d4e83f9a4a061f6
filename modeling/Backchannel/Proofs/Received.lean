/-
# Backchannel.Proofs.Received -- what a response means where it arrives

A response is written with `null` where it has no data, so data that is `null` arrives as none
(`Response.received`).  Nothing else about a response changes on its way, and what it means for
the stream of its request changes only with that: an item that is `null` arrives as the end of
the stream.

No reading brings data that is `null`, neither out of an object nor out of a list, with fields
missing or to spare.  So a response that was read once can be handed on as often as one likes.
-/
import Backchannel.Proofs.Json.Record
import Backchannel.Proofs.Response

namespace Backchannel

set_option autoImplicit false

open Backchannel.Json

namespace Response

/-- A response as it arrives. -/
def received (r : Response) : Response := if r.data = some .null then { r with data := none } else r

theorem received_eq (r : Response) :
    r.received = { r with data := dataIn (.ofOption (fun v => v) r.data) } := by
  obtain ⟨id, event, message, data⟩ := r
  cases data with
  | none => rfl
  | some v => cases v <;> rfl

/-- A response is read from what it is written as, but for `null` as its data. -/
theorem ofValue_toJson (r : Response) : decoder.ofValue r.toJson = .ok r.received := by
  rw [toJson_members, received_eq]
  exact r.ofValue_members _

/-! ## What is read has no `null` as its data -/

theorem data_of_ofValue {v : Value} {r : Response} (read : decoder.ofValue v = .ok r) :
    r.data ≠ some .null := by
  obtain ⟨⟨id, event, message, data, u⟩, rfl, -, -, -, stems, -⟩ := Decoder.record_stems read
  rintro (rfl : data = some .null)
  obtain ⟨v, value⟩ | default | absent := stems
  · cases v <;> cases value
  · cases default
  · cases absent

theorem received_of_ofValue {v : Value} {r : Response} (read : decoder.ofValue v = .ok r) :
    r.received = r :=
  if_neg (data_of_ofValue read)

/-! ## On the line -/

theorem toJson_exact {r : Response} (whole : ∀ v ∈ r.data, v.Exact) : r.toJson.Exact := by
  have data : (Value.ofOption (fun v => v) r.data).Exact := by
    cases own : r.data with
    | none => exact ⟨trivial, fun _ among => absurd among List.not_mem_nil⟩
    | some v => exact whole v own
  have keys : ["backwards_request_id", "data", "event", "message"].Pairwise (· < ·) := by decide
  rw [toJson_members]
  constructor
  · simp only [Value.Ordered, Value.OrderedMembers, true_and, and_true]
    exact ⟨keys, data.1⟩
  · intro n among
    simp only [Value.numbers, Value.numbersMembers, List.append_nil, List.nil_append] at among
    exact data.2 n among

theorem parse_toLine {r : Response} (sessionId : Option String) (whole : ∀ v ∈ r.data, v.Exact)
    (fits : (InboundFrame.ofResponse sessionId r).toJson.depth ≤ nestingLimit) :
    InboundFrame.decoder.parse (InboundFrame.ofResponse sessionId r).toLine =
      .ok (InboundFrame.ofResponse sessionId r) :=
  ((InboundFrame.ofResponse sessionId r).toLine_reads (toJson_exact whole)).result.mpr fits

/-! ## What it means -/

theorem meaning_received (r : Response) :
    if r.event = .response ∧ r.data = some .null then
      r.reply = .item .null ∧ r.isTerminal = false ∧
        r.received.reply = .finish ∧ r.received.isTerminal = true
    else r.received.reply = r.reply ∧ r.received.isTerminal = r.isTerminal := by
  obtain ⟨id, event, message, data⟩ := r
  split
  · rename_i flips
    obtain ⟨rfl, rfl⟩ := flips
    exact ⟨rfl, rfl, rfl, rfl⟩
  · rename_i other
    by_cases isNull : data = some .null
    · subst isNull
      cases event with
      | response => exact absurd ⟨rfl, rfl⟩ other
      | error | finish => exact ⟨rfl, rfl⟩
    · rw [show received ⟨id, event, message, data⟩ = _ from if_neg isNull]
      exact ⟨rfl, rfl⟩

/-- A response that is sent arrives with its id, its event, its message and its data, but that
`null` as its data arrives as none.  Only an item that is `null` so changes its meaning, and
arrives as the end of the stream.  What was read once is read again as the same, from whatever
form it was read first. -/
theorem meaning_survives :
    (∀ sessionId (r : Response), (∀ v ∈ r.data, v.Exact) →
      (InboundFrame.ofResponse sessionId r).toJson.depth ≤ nestingLimit →
      ∃ f, InboundFrame.decoder.parse (InboundFrame.ofResponse sessionId r).toLine = .ok f ∧
        f.sessionId = sessionId ∧ f.event = .response ∧ decoder.ofValue f.data = .ok r.received) ∧
    (∀ r : Response,
      if r.event = .response ∧ r.data = some .null then
        r.reply = .item .null ∧ r.isTerminal = false ∧
          r.received.reply = .finish ∧ r.received.isTerminal = true
      else r.received.reply = r.reply ∧ r.received.isTerminal = r.isTerminal) ∧
    ∀ v r, decoder.ofValue v = .ok r → r.received = r ∧ decoder.ofValue r.toJson = .ok r := by
  refine ⟨fun sessionId r whole fits => ?_, meaning_received, fun v r read => ?_⟩
  · exact ⟨_, parse_toLine sessionId whole fits, rfl, rfl, r.ofValue_toJson⟩
  · have same := received_of_ofValue read
    exact ⟨same, r.ofValue_toJson.trans (congrArg _ same)⟩

/-- An item that is `null` ends its stream where it arrives.  A response that was written as the
list of its first fields is read again from the object it is written as. -/
theorem null_arrives_as_finish :
    (∃ f, InboundFrame.decoder.parse (InboundFrame.ofResponse none (item "r1" .null)).toLine =
        .ok f ∧ decoder.ofValue f.data = .ok ⟨"r1", .response, "", none⟩) ∧
      (item "r1" .null).received.reply = .finish ∧
      decoder.ofValue (.list [.text "r1", .text "end"]) = .ok (finish "r1") ∧
      decoder.ofValue (finish "r1").toJson = .ok (finish "r1") := by
  have whole : ∀ v ∈ (item "r1" .null).data, v.Exact := by
    rintro v ⟨⟩
    exact ⟨trivial, fun _ among => absurd among List.not_mem_nil⟩
  have fits : (InboundFrame.ofResponse none (item "r1" .null)).toJson.depth ≤ nestingLimit := by
    rw [InboundFrame.toJson, depth_frame, InboundFrame.ofResponse, toJson_members]
    decide
  have ofList : decoder.ofValue (.list [.text "r1", .text "end"]) = .ok (finish "r1") := rfl
  obtain ⟨arrives, meaning, again⟩ := meaning_survives
  obtain ⟨f, parsed, -, -, read⟩ := arrives none (item "r1" .null) whole fits
  exact ⟨⟨f, parsed, read⟩, (meaning (item "r1" .null)).2.2.1, ofList, (again _ _ ofList).2⟩

end Response

end Backchannel
