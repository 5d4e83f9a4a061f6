/-
# Backchannel.Proofs.Mailbox -- nothing is lost from a mailbox unseen

Every item that a mailbox has taken was given to the consumer, was dropped, or still
waits: `Balanced` says so, in order, and says as well that a mailbox which has dropped
something is full.  `push`, `close` and `take` keep the balance.

`take_cases` says all that a pull can come to.  `remains` lists what the pulls from a
closed mailbox bring before there is only the end.
-/
import Backchannel.Mailbox

namespace Backchannel

set_option autoImplicit false

open Backchannel.Json (Value)

/-- What the pull after the last item brings. -/
def Closure.pulled : Closure → Pulled Value
  | .finished => .finished
  | .failed e => .failed e.duplicate

namespace Mailbox

variable {m : Mailbox} {taken given : List Value}

/-! ## Fields -/

@[simp] theorem push_room (v : Value) (m : Mailbox) : (m.push v).room = m.room := by
  simp only [push]
  split
  · rfl
  · split <;> rfl

@[simp] theorem push_closure (v : Value) (m : Mailbox) : (m.push v).closure = m.closure := by
  simp only [push]
  split
  · rfl
  · split <;> rfl

/-- An open mailbox takes the item, whatever it has to drop. -/
theorem push_items (h : m.closure = none) (v : Value) :
    ∃ kept, kept <:+ m.items ∧ (m.push v).items = kept ++ [v] := by
  by_cases fits : m.items.length < m.room
  · exact ⟨m.items, List.suffix_refl _, by simp [push, h, fits]⟩
  · exact ⟨m.items.tail, List.tail_suffix _, by simp [push, h, fits]⟩

/-- If nothing was dropped for it, an item comes behind all others. -/
theorem push_kept {v : Value} (opened : m.closure = none) (kept : m.dropped = 0)
    (still : (m.push v).dropped = 0) : (m.push v).items = m.items ++ [v] := by
  by_cases fits : m.items.length < m.room
  · simp [push, opened, fits]
  · simp [push, opened, fits, kept] at still

theorem close_of_open (h : m.closure = none) (c : Closure) :
    m.close c = { m with closure := some c } := by
  simp [close, h]

theorem close_of_closed {d : Closure} (h : m.closure = some d) (c : Closure) : m.close c = m := by
  simp [close, h]

/-- The first end counts. -/
@[simp] theorem close_closure (c : Closure) (m : Mailbox) :
    (m.close c).closure = some (m.closure.getD c) := by
  cases h : m.closure with
  | none => simp [close, h]
  | some d => simp [close, h]

/-! ## The balance of a mailbox -/

/-- The items of `taken` are those of `given`, then the dropped ones, then those that
wait.  A mailbox that has dropped something is full. -/
structure Balanced (m : Mailbox) (taken given : List Value) : Prop where
  split : ∃ lost : List Value, lost.length = m.dropped ∧ taken = given ++ (lost ++ m.items)
  full : 0 < m.dropped → m.items.length = m.room
  fits : m.items.length ≤ m.room
  positive : 0 < m.room

theorem balanced_empty (id : RequestId) (capacity : Nat) : Balanced (empty id capacity) [] [] where
  split := ⟨[], rfl, rfl⟩
  full := by simp [empty]
  fits := by simp [empty]
  positive := by simp only [empty]; omega

theorem Balanced.push (b : Balanced m taken given) (h : m.closure = none) (v : Value) :
    Balanced (m.push v) (taken ++ [v]) given := by
  obtain ⟨lost, count, rfl⟩ := b.split
  have positive := b.positive
  by_cases fits : m.items.length < m.room
  · have kept : m.dropped = 0 := by
      have full := b.full
      omega
    have pushed : m.push v = { m with items := m.items ++ [v] } := by simp [Mailbox.push, h, fits]
    rw [pushed]
    refine ⟨⟨lost, count, by simp⟩, by simp [kept], ?_, positive⟩
    simp only [List.length_append, List.length_singleton]
    omega
  · -- The mailbox is full, so it has an oldest item to drop.
    have full : m.items.length = m.room := by have := b.fits; omega
    obtain ⟨oldest, rest, items⟩ := List.exists_cons_of_length_pos (by omega : 0 < m.items.length)
    have pushed : m.push v = { m with items := rest ++ [v], dropped := m.dropped + 1 } := by
      rw [Mailbox.push, if_neg (by simp [h]), if_neg fits, items]
      rfl
    have length : (rest ++ [v]).length = m.room := by
      rw [← full, items]
      simp
    rw [pushed]
    exact ⟨⟨lost ++ [oldest], by simp [count], by simp [items]⟩, fun _ => length,
      Nat.le_of_eq length, positive⟩

theorem Balanced.close (b : Balanced m taken given) (c : Closure) :
    Balanced (m.close c) taken given := by
  cases h : m.closure with
  | none => rw [close_of_open h]; exact ⟨b.split, b.full, b.fits, b.positive⟩
  | some d => rwa [close_of_closed h]

/-! ## Pulling -/

/-- The four things that a pull can come to. -/
theorem take_cases (m : Mailbox) :
    (0 < m.dropped ∧ m.take = (.failed (.lagged m.id m.dropped),
        { m with items := [], dropped := 0, closure := some .finished })) ∨
      (m.dropped = 0 ∧ ∃ v rest, m.items = v :: rest ∧
        m.take = (.item v, { m with items := rest })) ∨
      (m.dropped = 0 ∧ m.items = [] ∧ ∃ c, m.closure = some c ∧ m.take = (c.pulled, m)) ∨
      (m.dropped = 0 ∧ m.items = [] ∧ m.closure = none ∧ m.take = (.pending, m)) := by
  by_cases lost : 0 < m.dropped
  · exact .inl ⟨lost, by simp [take, lost]⟩
  · have kept : m.dropped = 0 := by omega
    refine .inr ?_
    cases items : m.items with
    | cons v rest => exact .inl ⟨kept, v, rest, rfl, by simp [take, kept, items]⟩
    | nil =>
      refine .inr ?_
      cases closure : m.closure with
      | none => exact .inr ⟨kept, rfl, rfl, by simp [take, kept, items, closure]⟩
      | some c =>
        refine .inl ⟨kept, rfl, c, rfl, ?_⟩
        cases c <;> simp [take, kept, items, closure, Closure.pulled]

/-- What the pulls from a closed mailbox bring, until only the end is left. -/
def remains (m : Mailbox) : List (Pulled Value) :=
  if 0 < m.dropped then [.failed (.lagged m.id m.dropped)]
  else m.items.map .item ++ (m.closure.map Closure.pulled).toList

/-- A consumer that is told of dropped items can tell from their number how many the
mailbox has taken. -/
theorem Balanced.lag (b : Balanced m taken given) (lost : 0 < m.dropped) :
    taken.length = given.length + m.dropped + m.room := by
  obtain ⟨dropped, count, rfl⟩ := b.split
  simp only [List.length_append, count, b.full lost]
  omega

theorem Balanced.take_item (b : Balanced m taken given) (kept : m.dropped = 0) {v : Value}
    {rest : List Value} (items : m.items = v :: rest) :
    Balanced { m with items := rest } taken (given ++ [v]) := by
  obtain ⟨lost, count, rfl⟩ := b.split
  have none_lost : lost = [] := List.length_eq_zero_iff.mp (by omega)
  have fits := b.fits
  rw [items, List.length_cons] at fits
  refine ⟨⟨[], kept.symm, by simp [none_lost, items]⟩, ?_, Nat.le_of_succ_le fits, b.positive⟩
  intro lost
  simp only [kept] at lost
  omega

theorem Balanced.empty_handed (b : Balanced m taken given) (kept : m.dropped = 0)
    (items : m.items = []) : taken = given := by
  obtain ⟨lost, count, rfl⟩ := b.split
  have none_lost : lost = [] := List.length_eq_zero_iff.mp (by omega)
  simp [none_lost, items]

/-- As long as nothing was dropped, what was given is a beginning of what was taken. -/
theorem Balanced.isPrefix (b : Balanced m taken given) : given <+: taken := by
  obtain ⟨lost, _, rfl⟩ := b.split
  exact List.prefix_append _ _

end Mailbox

end Backchannel
