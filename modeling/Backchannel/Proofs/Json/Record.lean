/-
# Backchannel.Proofs.Json.Record -- where the fields of a record come from

A record may be read from an object, in any order of its members and with some of them
missing, or from the list of its fields.  Either way each of its fields was read in its own
shape, or is its default, or is what its shape makes of an absent field
(`Decoder.record_stems`).  So what is true of all that a shape reads, and of its defaults, is
true of the field of every record that is read.
-/
import Backchannel.Json.Decoder
import Backchannel.Proofs.Except

namespace Backchannel.Json

set_option autoImplicit false

namespace Fields

variable {τ σ : Type}

/-- Each field was read in its shape, or is its default, or stands for its absence. -/
def Stems : {τ σ : Type} → Fields τ σ → τ → Prop
  | _, _, .done, _ => True
  | _, _, .field _ shape default rest, (a, b) =>
    ((∃ v, shape.ofValue v = .ok a) ∨ default = some a ∨ shape.absent = some a) ∧ rest.Stems b

/-- What was read so far of each field was read in its shape. -/
def SlotsStem : {τ σ : Type} → Fields τ σ → σ → Prop
  | _, _, .done, _ => True
  | _, _, .field _ shape _ rest, (slot, slots) =>
    (∀ a, slot = some a → ∃ v, shape.ofValue v = .ok a) ∧ rest.SlotsStem slots

theorem slotsStem_empty (fs : Fields τ σ) : fs.SlotsStem fs.empty := by
  induction fs with
  | done => trivial
  | field name shape default rest ih => exact ⟨nofun, ih⟩

/-- A member goes into the slot of its field, and leaves the others as they were. -/
theorem SlotsStem.offer {fs : Fields τ σ} {slots slots' : σ} (stem : fs.SlotsStem slots)
    {key : String} {v : Value}
    (known : fs.offer key (fun shape => (shape.ofValue v).map (·, ())) slots =
      .known (.ok (slots', ()))) :
    fs.SlotsStem slots' := by
  induction fs with
  | done => cases known
  | field name shape default rest ih =>
    obtain ⟨slot, slots⟩ := slots
    obtain ⟨own, others⟩ := stem
    simp only [Fields.offer] at known
    split at known
    · cases slot with
      | some before => cases known
      | none =>
        obtain ⟨⟨a, u⟩, read, same⟩ := Except.map_eq_ok.mp (Offer.known.inj known)
        obtain ⟨a', value, pair⟩ := Except.map_eq_ok.mp read
        cases pair
        cases same
        refine ⟨fun b taken => ⟨v, ?_⟩, others⟩
        cases taken
        exact value
    · generalize offered : rest.offer key _ slots = offer at known
      cases offer with
      | unknown | repeated => cases known
      | known result =>
        obtain ⟨⟨later, u⟩, taken, same⟩ := Except.map_eq_ok.mp (Offer.known.inj known)
        cases same
        exact ⟨own, ih others (taken ▸ offered)⟩

theorem SlotsStem.finish {fs : Fields τ σ} {slots : σ} (stem : fs.SlotsStem slots) {values : τ}
    (ends : fs.finish slots = .ok values) : fs.Stems values := by
  induction fs with
  | done => trivial
  | field name shape default rest ih =>
    obtain ⟨slot, slots⟩ := slots
    obtain ⟨own, others⟩ := stem
    have later : ∀ {a}, ((rest.finish slots).bind fun b => .ok (a, b)) = .ok values →
        (∃ v, shape.ofValue v = .ok a) ∨ default = some a ∨ shape.absent = some a →
          (Fields.field name shape default rest).Stems values := by
      intro a ends stems
      obtain ⟨b, later, pair⟩ := Except.bind_eq_ok.mp ends
      cases pair
      exact ⟨stems, ih others later⟩
    simp only [Fields.finish] at ends
    split at ends
    · exact later ends (.inl (own _ rfl))
    · exact later ends (.inr (.inl rfl))
    · rename_i absent
      exact later ends (.inr (.inr absent))
    · cases ends

theorem SlotsStem.ofMembers {fs : Fields τ σ} {members : Members} {slots : σ}
    (stem : fs.SlotsStem slots) {values : τ} (read : fs.ofMembers members slots = .ok values) :
    fs.Stems values := by
  induction members generalizing slots with
  | nil => exact stem.finish read
  | cons member members ih =>
    obtain ⟨key, v⟩ := member
    rw [Fields.ofMembers] at read
    split at read
    · exact ih stem read
    · cases read
    · rename_i offered
      exact ih (stem.offer offered) read
    · cases read

theorem stems_ofItems {fs : Fields τ σ} {expected : String} {index : Nat} {items left : List Value}
    {values : τ} (read : fs.ofItems expected index items = .ok (values, left)) :
    fs.Stems values := by
  induction fs generalizing index items with
  | done => trivial
  | field name shape default rest ih =>
    cases items with
    | cons v items =>
      rw [ofItems] at read
      obtain ⟨a, first, read⟩ := Except.bind_eq_ok.mp read
      obtain ⟨⟨b, more⟩, later, pair⟩ := Except.bind_eq_ok.mp read
      cases pair
      exact ⟨.inl ⟨v, first⟩, ih later⟩
    | nil =>
      cases default with
      | none => cases read
      | some a =>
        rw [ofItems] at read
        obtain ⟨⟨b, more⟩, later, pair⟩ := Except.bind_eq_ok.mp read
        cases pair
        exact ⟨.inr (.inl rfl), ih later⟩

end Fields

/-- A record that is read, from an object or from a list, is built of fields that stem from
their shapes. -/
theorem Decoder.record_stems {τ σ α : Type} {label : String} {fs : Fields τ σ} {build : τ → α}
    {v : Value} {r : α} (read : (Decoder.record label fs build).ofValue v = .ok r) :
    ∃ values, r = build values ∧ fs.Stems values := by
  cases v with
  | object members =>
    obtain ⟨values, taken, rfl⟩ := Except.map_eq_ok.mp read
    exact ⟨values, rfl, fs.slotsStem_empty.ofMembers taken⟩
  | list items =>
    obtain ⟨⟨values, left⟩, taken, rest⟩ := Except.bind_eq_ok.mp read
    dsimp only at rest
    split at rest
    · cases rest
      exact ⟨values, rfl, Fields.stems_ofItems taken⟩
    · cases rest
  | null | bool | number | text => cases read

end Backchannel.Json
