/-
# Backchannel.Mailbox -- where the items of one request wait

A mailbox is filled by the session and emptied by one consumer.  It is bounded and
never makes the session wait: an item that comes to a full mailbox drops the oldest
one, and the drop is counted.  The consumer learns of dropped items before anything
else, and then its stream is over; so what it gets is complete and in order, or it
ends with an error.

How the stream ended is kept apart from the items.  The first end counts, and the
items that came before it stay deliverable.
-/
import Backchannel.Pulled

namespace Backchannel

set_option autoImplicit false

open Backchannel.Json (Value)

/-- How the stream of a request ended. -/
inductive Closure where
  | finished
  | failed (e : CallError)
  deriving DecidableEq

/-- How a session refers to one of its mailboxes: by its place among them. -/
abbrev MailboxRef := Nat

structure Mailbox where
  id : RequestId
  /-- The greatest number of waiting items. -/
  room : Nat
  items : List Value
  /-- How many items were dropped. -/
  dropped : Nat
  closure : Option Closure
  deriving DecidableEq

namespace Mailbox

/-- An empty mailbox, with room for one item at least. -/
def empty (id : RequestId) (capacity : Nat) : Mailbox := ⟨id, max capacity 1, [], 0, none⟩

/-- Adds an item behind all others.  A closed mailbox takes none. -/
def push (v : Value) (m : Mailbox) : Mailbox :=
  if m.closure.isSome then m
  else if m.items.length < m.room then { m with items := m.items ++ [v] }
  else { m with items := m.items.tail ++ [v], dropped := m.dropped + 1 }

/-- Ends the stream.  A mailbox that is closed stays as it is. -/
def close (c : Closure) (m : Mailbox) : Mailbox :=
  if m.closure.isSome then m else { m with closure := some c }

/-- The consumer's pull: dropped items are told first and once, and they end the
stream; then come the items, then the end. -/
def take (m : Mailbox) : Pulled Value × Mailbox :=
  if 0 < m.dropped then
    (.failed (.lagged m.id m.dropped),
      { m with items := [], dropped := 0, closure := some .finished })
  else
    match m.items, m.closure with
    | v :: rest, _ => (.item v, { m with items := rest })
    | [], some .finished => (.finished, m)
    | [], some (.failed e) => (.failed e.duplicate, m)
    | [], none => (.pending, m)

end Mailbox

end Backchannel
