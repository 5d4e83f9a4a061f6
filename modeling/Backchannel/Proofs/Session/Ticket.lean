/-
# Backchannel.Proofs.Session.Ticket -- what the caller of a request has

The caller of a request has its subscription and, through that, a mailbox.  A `Ticket`
is both.  Replies are put into it as long as it is open; `pull_cases` says all that a
pull can come to.
-/
import Backchannel.Session.Basic
import Backchannel.Proofs.Mailbox

namespace Backchannel

set_option autoImplicit false

open Backchannel.Json (Value)

/-- What the caller of a request has. -/
structure Ticket where
  sub : Subscription
  box : Mailbox

namespace Ticket

/-- The caller waits for more than is there. -/
def isOpen (t : Ticket) : Bool := !t.sub.done && t.box.closure.isNone

def put (v : Value) (t : Ticket) : Ticket :=
  if t.isOpen then { t with box := t.box.push v } else t

def close (c : Closure) (t : Ticket) : Ticket :=
  if t.isOpen then { t with box := t.box.close c } else t

def conclude (t : Ticket) : Ticket := { t with sub := { t.sub with done := true } }

/-- The caller's pull at some time. -/
def pull (id : RequestId) (now : Instant) (t : Ticket) : Pulled Value × Ticket :=
  if t.sub.done then (.finished, t)
  else
    let (got, box) := t.box.take
    let t := { t with box := box }
    match got with
    | .item v => (.item v, t)
    | .finished => (.finished, t.conclude)
    | .failed e => (.failed e, t.conclude)
    | .pending =>
      if t.sub.deadline ≤ now then (.failed (.timeout id t.sub.timeout), t.conclude)
      else (.pending, t)

theorem isOpen_iff {t : Ticket} : t.isOpen = true ↔ t.sub.done = false ∧ t.box.closure = none := by
  simp [isOpen]

@[simp] theorem close_sub (c : Closure) (t : Ticket) : (t.close c).sub = t.sub := by
  unfold close; split <;> rfl

@[simp] theorem put_sub (v : Value) (t : Ticket) : (t.put v).sub = t.sub := by
  unfold put; split <;> rfl

@[simp] theorem put_isOpen (v : Value) (t : Ticket) : (t.put v).isOpen = t.isOpen := by
  unfold put; split <;> simp [isOpen]

@[simp] theorem close_isOpen (c : Closure) (t : Ticket) : (t.close c).isOpen = false := by
  unfold close
  split
  · simp [isOpen]
  · rename_i h
    simpa using h

@[simp] theorem put_closure (v : Value) (t : Ticket) :
    (t.put v).box.closure = t.box.closure := by
  unfold put; split <;> simp

theorem put_of_not_open {t : Ticket} (h : t.isOpen = false) (v : Value) : t.put v = t := by
  simp [put, h]

theorem close_of_not_open {t : Ticket} (h : t.isOpen = false) (c : Closure) : t.close c = t := by
  simp [close, h]

/-! ## Pulling -/

theorem pull_of_done {t : Ticket} (h : t.sub.done = true) (id : RequestId) (now : Instant) :
    t.pull id now = (.finished, t) := by
  simp [pull, h]

/-- The five things that a pull can come to. -/
theorem pull_cases {t : Ticket} (h : t.sub.done = false) (id : RequestId) (now : Instant) :
    (0 < t.box.dropped ∧ t.pull id now = (.failed (.lagged t.box.id t.box.dropped),
        conclude ⟨t.sub, { t.box with items := [], dropped := 0, closure := some .finished }⟩)) ∨
      (t.box.dropped = 0 ∧ ∃ v rest, t.box.items = v :: rest ∧
        t.pull id now = (.item v, ⟨t.sub, { t.box with items := rest }⟩)) ∨
      (t.box.dropped = 0 ∧ t.box.items = [] ∧ ∃ c, t.box.closure = some c ∧
        t.pull id now = (c.pulled, t.conclude)) ∨
      (t.box.dropped = 0 ∧ t.box.items = [] ∧ t.box.closure = none ∧ t.sub.deadline ≤ now ∧
        t.pull id now = (.failed (.timeout id t.sub.timeout), t.conclude)) ∨
      (t.box.dropped = 0 ∧ t.box.items = [] ∧ t.box.closure = none ∧ now < t.sub.deadline ∧
        t.pull id now = (.pending, t)) := by
  rcases t.box.take_cases with ⟨lost, take⟩ | ⟨kept, v, rest, items, take⟩ |
    ⟨kept, items, c, closure, take⟩ | ⟨kept, items, closure, take⟩
  · exact .inl ⟨lost, by simp [pull, h, take]⟩
  · exact .inr (.inl ⟨kept, v, rest, items, by simp [pull, h, take]⟩)
  · refine .inr (.inr (.inl ⟨kept, items, c, closure, ?_⟩))
    cases c <;> simp [pull, h, take, Closure.pulled]
  · by_cases late : t.sub.deadline ≤ now
    · exact .inr (.inr (.inr (.inl ⟨kept, items, closure, late, by simp [pull, h, take, late]⟩)))
    · refine .inr (.inr (.inr (.inr ⟨kept, items, closure, Nat.lt_of_not_le late, ?_⟩)))
      simp [pull, h, take, late]

/-- Either a pull concludes, or it leaves the caller waiting as before. -/
theorem pull_sub (t : Ticket) (id : RequestId) (now : Instant) :
    ((t.pull id now).2.sub.done = true ∧ (t.pull id now).2.sub = t.conclude.sub) ∨
      ((t.pull id now).2.sub.done = false ∧ (t.pull id now).2.sub = t.sub ∧
        (t.pull id now).2.isOpen = t.isOpen) := by
  cases done : t.sub.done with
  | true =>
    left
    rw [pull_of_done done]
    exact ⟨done, by simp [conclude, ← done]⟩
  | false =>
    rcases pull_cases done id now with ⟨-, pull⟩ | ⟨-, v, rest, -, pull⟩ | ⟨-, -, c, -, pull⟩ |
      ⟨-, -, -, -, pull⟩ | ⟨-, -, -, -, pull⟩ <;>
      simp [pull, conclude, isOpen, done]

/-- A pull that brings the end or an error concludes, and no other does. -/
theorem pull_done {t : Ticket} (h : t.sub.done = false) (id : RequestId) (now : Instant) :
    (t.pull id now).2.sub.done = (t.pull id now).1.isOver := by
  rcases pull_cases h id now with ⟨-, pull⟩ | ⟨-, v, rest, -, pull⟩ | ⟨-, -, c, -, pull⟩ |
    ⟨-, -, -, -, pull⟩ | ⟨-, -, -, -, pull⟩ <;> rw [pull]
  · rfl
  · exact h
  · cases c <;> rfl
  · rfl
  · exact h

/-- No mailbox says that an item has the wrong shape. -/
theorem pull_ne_decode (t : Ticket) (id : RequestId) (now : Instant) (other : RequestId)
    (how : ReadError) : (t.pull id now).1 ≠ .failed (.decode other how) := by
  cases done : t.sub.done with
  | true => simp [pull_of_done done]
  | false =>
    rcases pull_cases done id now with ⟨-, pull⟩ | ⟨-, v, rest, -, pull⟩ | ⟨-, -, c, -, pull⟩ |
      ⟨-, -, -, -, pull⟩ | ⟨-, -, -, -, pull⟩ <;> rw [pull]
    · simp
    · simp
    · cases c with
      | finished => simp [Closure.pulled]
      | failed e => cases e <;> simp [Closure.pulled, CallError.duplicate]
    · simp
    · simp

/-- What the pulls of a caller bring, whose ticket is not open, until there is only the
end. -/
def outcome (t : Ticket) : List (Pulled Value) := if t.sub.done then [] else t.box.remains

/-- A pull brings what is first in the outcome, and then the end. -/
theorem pull_outcome {t : Ticket} (h : t.isOpen = false) (id : RequestId) (now : Instant) :
    (t.outcome = [] ∧ (t.pull id now).1 = .finished ∧ (t.pull id now).2.outcome = []) ∨
      t.outcome = (t.pull id now).1 :: (t.pull id now).2.outcome := by
  cases done : t.sub.done with
  | true =>
    left
    rw [pull_of_done done]
    simp [outcome, done]
  | false =>
    right
    have closed : t.box.closure.isSome = true := by simpa [isOpen, done] using h
    rcases pull_cases done id now with ⟨lost, pull⟩ | ⟨kept, v, rest, items, pull⟩ |
      ⟨kept, items, c, closure, pull⟩ | ⟨-, -, opened, -, -⟩ | ⟨-, -, opened, -, -⟩
    · simp [outcome, done, pull, conclude, Mailbox.remains, lost]
    · simp [outcome, done, pull, Mailbox.remains, kept, items]
    · simp [outcome, done, pull, conclude, Mailbox.remains, kept, items, closure]
    · simp [opened] at closed
    · simp [opened] at closed

/-- Who need not wait for more is answered at once. -/
theorem pull_ne_pending {t : Ticket} (ended : t.isOpen = false) (id : RequestId) (now : Instant) :
    (t.pull id now).1 ≠ .pending := by
  cases done : t.sub.done with
  | true => simp [pull_of_done done]
  | false =>
    have closed : t.box.closure.isSome = true := by simpa [isOpen, done] using ended
    rcases pull_cases done id now with ⟨-, pull⟩ | ⟨-, v, rest, -, pull⟩ |
      ⟨-, -, c, -, pull⟩ | ⟨-, -, -, -, pull⟩ | ⟨-, -, opened, -, -⟩
    · simp [pull]
    · simp [pull]
    · cases c <;> simp [pull, Closure.pulled]
    · simp [pull]
    · simp [opened] at closed

/-- A pull that finds nothing changes nothing. -/
theorem pull_pending {t : Ticket} (h : t.sub.done = false) {id : RequestId} {now : Instant}
    (nothing : (t.pull id now).1 = .pending) :
    t.box.items = [] ∧ t.box.closure = none ∧ (t.pull id now).2 = t := by
  rcases pull_cases h id now with ⟨-, pull⟩ | ⟨-, v, rest, -, pull⟩ | ⟨-, -, c, -, pull⟩ |
    ⟨-, -, -, -, pull⟩ | ⟨-, items, unclosed, -, pull⟩ <;> rw [pull] at nothing ⊢
  · cases nothing
  · cases nothing
  · cases c <;> cases nothing
  · cases nothing
  · exact ⟨items, unclosed, rfl⟩

/-- Only what was dropped makes a pull close a mailbox, or close it anew. -/
theorem pull_closure (t : Ticket) (id : RequestId) (now : Instant) :
    (t.pull id now).2.box.closure = t.box.closure ∨
      (t.pull id now).2.box.closure = some .finished := by
  cases done : t.sub.done with
  | true => exact .inl (by rw [pull_of_done done])
  | false =>
    rcases pull_cases done id now with ⟨-, pull⟩ | ⟨-, v, rest, -, pull⟩ | ⟨-, -, c, -, pull⟩ |
      ⟨-, -, -, -, pull⟩ | ⟨-, -, -, -, pull⟩
    · exact .inr (by rw [pull]; rfl)
    · exact .inl (by rw [pull])
    · exact .inl (by rw [pull]; rfl)
    · exact .inl (by rw [pull]; rfl)
    · exact .inl (by rw [pull])

theorem pull_not_open {t : Ticket} (h : t.isOpen = false) (id : RequestId) (now : Instant) :
    (t.pull id now).2.isOpen = false := by
  rcases t.pull_sub id now with ⟨done, -⟩ | ⟨-, -, same⟩
  · simp [isOpen, done]
  · rw [same, h]

end Ticket

end Backchannel
