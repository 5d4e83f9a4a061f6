/-
# Backchannel.Proofs.Json.Canonical -- what is written is read as it was

A shape is canonical with a way to write it if whatever was read of some value is read again,
as the same, of what is written for it (`Decoder.Canonical`).  The value that was read need
not be the one that is written: a record may have been a list, may have lacked fields or had
more of them.  But once it has been read and written no later reading or writing changes it
(`Decoder.Canonical.settles`).

Not every value of a type is read of what is written for it: a number may be too large for its
word, and data that is `null` is none.  So what is read matters, and for the fields of a record
what they become when they are not written (`Decoder.record_canonical`).
-/
import Backchannel.Proofs.Json.Object

namespace Backchannel.Json

set_option autoImplicit false

namespace Decoder

variable {α : Type} {d : Decoder α} {write : α → Value}

/-- What is read is read again of what is written for it. -/
def Canonical (d : Decoder α) (write : α → Value) : Prop :=
  ∀ ⦃v a⦄, d.ofValue v = .ok a → d.ofValue (write a) = .ok a

/-- What becomes of a value that is read and written again so many times. -/
def relay (d : Decoder α) (write : α → Value) : Nat → Value → Except Mismatch Value
  | 0, v => .ok v
  | n + 1, v => (d.ofValue v).bind fun a => d.relay write n (write a)

/-- What is read is read again as the same, and after it has been relayed once the value does
not change any more. -/
def Settles (d : Decoder α) (write : α → Value) : Prop :=
  ∀ v a, d.ofValue v = .ok a →
    d.ofValue (write a) = .ok a ∧ ∀ n, d.relay write (n + 1) v = .ok (write a)

theorem Canonical.relay (canonical : d.Canonical write) {v : Value} {a : α}
    (read : d.ofValue v = .ok a) (n : Nat) : d.relay write (n + 1) v = .ok (write a) := by
  induction n generalizing v with
  | zero =>
    rw [Decoder.relay, read]
    rfl
  | succ n ih =>
    rw [Decoder.relay, read]
    exact ih (canonical read)

theorem Canonical.settles (canonical : d.Canonical write) : d.Settles write :=
  fun _ _ read => ⟨canonical read, canonical.relay read⟩

/-! ## Shapes -/

theorem Canonical.of_forall (all : ∀ a, d.ofValue (write a) = .ok a) : d.Canonical write :=
  fun _ a _ => all a

@[simp]
theorem text_ofValue (s : String) : text.ofValue (.text s) = .ok s := rfl

/-- A whole number that a 64-bit word holds is exact. -/
theorem natBelow_ofValue {bound n : Nat} (words : bound ≤ Numeric.wordValues 64)
    (expected : String) (below : n < bound) :
    (natBelow bound expected).ofValue (.ofNat n) = .ok n := by
  have top : Numeric.wordValues 64 = 18446744073709551616 := by decide
  have fits : FitsWord (n : Int) := ⟨by omega, by omega⟩
  have range : (0 : Int) ≤ n ∧ (n : Int) < bound := ⟨by omega, by omega⟩
  rw [Value.ofNat, Value.ofInt, Number.ofInt, dif_pos fits]
  exact if_pos range

theorem natBelow_canonical {bound : Nat} (words : bound ≤ Numeric.wordValues 64)
    (expected : String) : (natBelow bound expected).Canonical Value.ofNat := by
  intro v n read
  refine natBelow_ofValue words expected ?_
  cases v with
  | number number =>
    cases number with
    | whole i fits =>
      dsimp only [natBelow, Decoder.number] at read
      split at read
      · cases read
        omega
      · cases read
    | real x => cases read
  | null | bool | text | list | object => cases read

theorem optional_some {v : Value} {a : α} (present : v ≠ .null) (read : d.ofValue v = .ok a) :
    (optional d).ofValue v = .ok (some a) := by
  cases v with
  | null => exact absurd rfl present
  | bool | number | text | list | object => exact congrArg (Except.map some) read

/-- What is not `null` must not be written as `null`, or it would be read as absent. -/
theorem Canonical.optional (canonical : d.Canonical write)
    (present : ∀ {v a}, v ≠ .null → d.ofValue v = .ok a → write a ≠ .null) :
    (Decoder.optional d).Canonical (Value.ofOption write) := by
  intro v o read
  cases v with
  | null =>
    cases read
    rfl
  | bool | number | text | list | object =>
    obtain ⟨a, own, rfl⟩ := Except.map_eq_ok.mp read
    exact optional_some (present Value.noConfusion own) (canonical own)

theorem optional_ofValue (all : ∀ a, d.ofValue (write a) = .ok a) (present : ∀ a, write a ≠ .null)
    (o : Option α) : (optional d).ofValue (.ofOption write o) = .ok o := by
  cases o with
  | none => rfl
  | some a => exact optional_some (present a) (all a)

theorem list_ofValue (all : ∀ a, d.ofValue (write a) = .ok a) (as : List α) :
    (list d).ofValue (.list (as.map write)) = .ok as := by
  change (as.map write).mapM d.ofValue = .ok as
  induction as with
  | nil => rfl
  | cons a as ih =>
    rw [List.map_cons, List.mapM_cons, all a, ih]
    rfl

end Decoder

/-! ## Records -/

namespace Fields

variable {τ σ : Type}

/-- The members of the first fields, which have these values. -/
def members : {τ σ : Type} → Fields τ σ → List Value → Members
  | _, _, .field name _ _ rest, v :: vs => (name, v) :: rest.members vs
  | _, _, _, _ => []

/-- The first fields are read of these values, and the others take their defaults or are
absent. -/
def Written : {τ σ : Type} → Fields τ σ → List Value → τ → Prop
  | _, _, .done, _, _ => True
  | _, _, .field _ shape default rest, [], (a, b) => shape.Takes default none a ∧ rest.Written [] b
  | _, _, .field _ shape _ rest, v :: vs, (a, b) => shape.ofValue v = .ok a ∧ rest.Written vs b

theorem mem_names {fs : Fields τ σ} {vs : List Value} {key : String}
    (among : key ∈ (fs.members vs).map Prod.fst) : key ∈ fs.names := by
  induction fs generalizing vs with
  | done => cases among
  | field name shape default rest ih =>
    cases vs with
    | nil => cases among
    | cons v vs =>
      rcases List.mem_cons.mp among with rfl | later
      · exact List.mem_cons_self
      · exact List.mem_cons_of_mem _ (ih later)

theorem members_nodup {fs : Fields τ σ} (distinct : fs.names.Nodup) (vs : List Value) :
    ((fs.members vs).map Prod.fst).Nodup := by
  induction fs generalizing vs with
  | done => exact List.nodup_nil
  | field name shape default rest ih =>
    obtain ⟨first, later⟩ := List.nodup_cons.mp distinct
    cases vs with
    | nil => exact List.nodup_nil
    | cons v vs => exact List.nodup_cons.mpr ⟨fun among => first (mem_names among), ih later vs⟩

/-- Written fields are found by their names, and those that are not written are not found,
whatever else stands behind them. -/
theorem Written.yields {fs : Fields τ σ} (distinct : fs.names.Nodup) {vs : List Value}
    {others : Members} (apart : ∀ name ∈ fs.names, name ∉ others.map Prod.fst) {values : τ}
    (written : fs.Written vs values) :
    fs.Yields fs.empty (Members.get? · (fs.members vs ++ others)) values := by
  induction fs generalizing vs with
  | done => trivial
  | field name shape default rest ih =>
    obtain ⟨a, b⟩ := values
    obtain ⟨first, later⟩ := List.nodup_cons.mp distinct
    have apart' : ∀ key ∈ rest.names, key ∉ others.map Prod.fst := fun key among =>
      apart key (List.mem_cons_of_mem _ among)
    cases vs with
    | nil =>
      obtain ⟨own, written⟩ := written
      have absent : Members.get? name others = none :=
        Members.get?_eq_none (apart name List.mem_cons_self)
      have yields := ih later apart' written
      cases rest with
      | done => exact ⟨absent ▸ own, trivial⟩
      | field => exact ⟨absent ▸ own, yields⟩
    | cons v vs =>
      obtain ⟨own, written⟩ := written
      have here : found name v (Members.get? · (rest.members vs ++ others)) name = some v := if_pos rfl
      refine ⟨(congrArg (shape.Takes default · a) here).mpr own, ?_⟩
      exact (yields_congr (found_of_ne first v _)).mpr (ih later apart' written)

end Fields

namespace Decoder

variable {α τ σ : Type} {label : String} {fs : Fields τ σ} {build : τ → α}

/-- A record is read of its members, whatever else stands beside them. -/
theorem record_ofMembers (others : Members) (distinct : (fs.names ++ others.map Prod.fst).Nodup)
    (vs : List Value) (values : τ) (written : fs.Written vs values) :
    (record label fs build).ofValue (.ofMembers (fs.members vs ++ others)) = .ok (build values) := by
  obtain ⟨own, keys, apart⟩ := List.nodup_append.mp distinct
  have all : ((fs.members vs ++ others).map Prod.fst).Nodup := by
    rw [List.map_append]
    exact List.nodup_append.mpr ⟨Fields.members_nodup own vs, keys, fun key among =>
      apart key (Fields.mem_names among)⟩
  refine (record_object_iff own (Members.sorted_ofList _).nodup).mpr ⟨values, ?_, rfl⟩
  refine (Fields.yields_congr fun name _ => Members.get?_ofList all name).mpr ?_
  exact written.yields own fun name among other => apart name among name other rfl

/-- A record is read of its members. -/
theorem record_ofFields (distinct : fs.names.Nodup) (vs : List Value) (values : τ)
    (written : fs.Written vs values) :
    (record label fs build).ofValue (.ofMembers (fs.members vs)) = .ok (build values) := by
  have alone : (fs.names ++ ([] : Members).map Prod.fst).Nodup :=
    (List.append_nil fs.names).symm ▸ distinct
  rw [← List.append_nil (fs.members vs)]
  exact record_ofMembers [] alone vs values written

/-- A record is canonical if its fields are read of what is written for them, whether they were
read, took their default or were absent. -/
theorem record_canonical (distinct : fs.names.Nodup) (write : α → List Value)
    (kept : ∀ values, fs.Stems values → fs.Written (write (build values)) values) :
    (record label fs build).Canonical fun a => .ofMembers (fs.members (write a)) := by
  intro v a read
  obtain ⟨values, rfl, stems⟩ := record_stems read
  exact record_ofFields distinct _ values (kept values stems)

end Decoder

end Backchannel.Json
