/-
# Backchannel.Proofs.Notice -- whose line it is

A response names its request.  It may say so as an object, in its member
`backwards_request_id`, or as the list of its fields.  `Notice.idIn?` reads the id off the
data itself, whether or not the rest of it can be read, and every notice goes by that id
(`names?_ofResponseData`).  So a line concerns at most the request that it is about
(`Notice.idOfLine?`), and one that is not text, that is no frame, or that is no response
frame concerns none.
-/
import Backchannel.Session.Inbound

namespace Backchannel

set_option autoImplicit false

open Backchannel.Json (Value Members Mismatch)
open Backchannel.Text.Utf8 (Bytes)

/-! ## Records -/

namespace Json

variable {α τ σ : Type} {name : String} {shape : Decoder α} {rest : Fields τ σ}

/-- What an object says of the first field of a record: what was read of it before stands,
else its first member of that name is read. -/
theorem Fields.ofMembers_field (needed : shape.absent = none) {members : Members}
    {slot : Option α} {slots : σ} {a : α} {b : τ}
    (read : (Fields.field name shape none rest).ofMembers members (slot, slots) = .ok (a, b)) :
    slot = some a ∨
      slot = none ∧ ∃ v, Members.get? name members = some v ∧ shape.ofValue v = .ok a := by
  induction members generalizing slot slots with
  | nil =>
    cases slot with
    | none => simp [ofMembers, finish, needed, bind, Except.bind] at read
    | some before =>
      cases ends : rest.finish slots with
      | error how => simp [ofMembers, finish, ends, bind, Except.bind] at read
      | ok b' =>
        simp [ofMembers, finish, ends, bind, Except.bind, pure, Except.pure] at read
        exact .inl (by rw [read.1])
  | cons member members ih =>
    obtain ⟨key, v⟩ := member
    rw [ofMembers] at read
    by_cases own : name = key
    · cases slot with
      | some before => simp [offer, own] at read
      | none =>
        refine .inr ⟨rfl, v, by simp [Members.get?, own], ?_⟩
        cases value : shape.ofValue v with
        | error how => simp [offer, own, value, Except.map] at read
        | ok first =>
          simp only [offer, own, if_true, value, Except.map] at read
          rcases ih (own ▸ read) with same | ⟨empty, -⟩
          · rw [Option.some.inj same]
          · cases empty
    · have skipped : Members.get? name ((key, v) :: members) = Members.get? name members := by
        simp [Members.get?, Ne.symm own]
      rw [skipped]
      simp only [offer, if_neg own] at read
      generalize rest.offer key _ slots = offered at read
      cases offered with
      | unknown => exact ih read
      | repeated => cases read
      | known result =>
        cases result with
        | error how => cases read
        | ok after => exact ih read

/-- A record that is read from an object has its first field from the member of that
name, if the field has no default. -/
theorem Decoder.record_first {β : Type} {label : String} {build : α × τ → β}
    (needed : shape.absent = none) {members : Members} {r : β}
    (read : (Decoder.record label (.required name shape rest) build).ofValue (.object members) =
      .ok r) :
    ∃ v a b, Members.get? name members = some v ∧ shape.ofValue v = .ok a ∧ r = build (a, b) := by
  let fields : Fields (α × τ) (Option α × σ) := .required name shape rest
  change (fields.ofMembers members (none, rest.empty)).map build = .ok r at read
  cases taken : fields.ofMembers members (none, rest.empty) with
  | error how => simp [taken, Except.map] at read
  | ok values =>
    obtain ⟨a, b⟩ := values
    rw [taken] at read
    rcases Fields.ofMembers_field needed taken with before | ⟨-, v, member, value⟩
    · cases before
    · exact ⟨v, a, b, member, value, (Except.ok.inj read).symm⟩

end Json

/-! ## Responses -/

namespace Notice

variable {data : Value} {id : RequestId}

/-- The request that a notice is about. -/
def names? : Notice → Option RequestId
  | .response r => some r.id
  | .malformed id _ => some id
  | .nothing | .request _ => none

/-- The request that the data of a response frame is about.  As an object it has a member
for it, readable or not; as a list it has to be a response. -/
def idIn? (data : Value) : Option RequestId :=
  match data with
  | .object _ => namedId? data
  | _ => (Response.decoder.ofValue data).toOption.map Response.id

theorem namedId?_of_response {members : Members} {r : Response}
    (read : Response.decoder.ofValue (.object members) = .ok r) :
    namedId? (.object members) = some r.id := by
  obtain ⟨v, own, rest, member, text, rfl⟩ := Json.Decoder.record_first rfl read
  cases v with
  | text own =>
    cases text
    simp [namedId?, Value.member?, member, Value.text?]
  | _ => cases text

/-- A notice is about the request that the data names. -/
theorem names?_ofResponseData (data : Value) : (ofResponseData data).names? = idIn? data := by
  cases read : Response.decoder.ofValue data with
  | ok r =>
    have own : (ofResponseData data).names? = some r.id := by simp [ofResponseData, read, names?]
    rw [own]
    cases data with
    | object members => exact (namedId?_of_response read).symm
    | _ => simp [idIn?, read, Except.toOption]
  | error how =>
    have named : (ofResponseData data).names? = namedId? data := by
      simp only [ofResponseData, read]
      cases namedId? data <;> rfl
    rw [named]
    cases data with
    | object members => rfl
    | _ => simp [idIn?, read, Except.toOption, namedId?, Value.member?]

/-- The request that a line is about: the line is the text of a response frame, and the
data of that names the request. -/
def idOfLine? (line : Bytes) : Option RequestId := do
  let cs ← (Text.Utf8.decode line).toOption
  let frame ← (InboundFrame.decoder.parse (String.ofList (Text.trimRight isLineEnd cs))).toOption
  if frame.event = .response then idIn? frame.data else none

/-- Only a line that is about a request comes to a notice of it. -/
theorem idOfLine?_of_names {line : Bytes} (named : (ofLine line).names? = some id) :
    idOfLine? line = some id := by
  unfold ofLine at named
  split at named
  · rename_i cs text
    dsimp only [ofText] at named
    split at named
    · cases named
    · split at named
      · rename_i frame parsed
        unfold ofFrame at named
        split at named
        · rename_i event
          rw [names?_ofResponseData] at named
          simp [idOfLine?, text, parsed, event, named, Except.toOption]
        · cases named
        · cases named
      · cases named
  · cases named

end Notice

end Backchannel
