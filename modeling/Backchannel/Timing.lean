/-
# Backchannel.Timing -- one timed call at a time

A timing context belongs to one object and says whether a timed call of that
object is running.  Entering it records the start; entering it again before the
call has ended is a mistake of the caller and fails at once.  Copies of a context
are the same object: they form a *family*, which shares one slot.

A guard stands for the running call.  The call ends when its guard is finished or
dropped, whichever contexts are still there.
-/
import Backchannel.CallError
import Backchannel.Keyed

namespace Backchannel

set_option autoImplicit false

/-- Stands for a running timed call. -/
structure Guard where
  family : Nat
  startedAt : Instant
  deriving DecidableEq, Repr

/-- Contexts and guards under names of type `κ`, and the slot of each family.
`families` counts the families so far. -/
structure Timing (κ : Type) where
  families : Nat
  slots : Keyed Nat Instant
  contexts : Keyed κ Nat
  guards : Keyed κ Guard

namespace Timing

variable {κ : Type} [DecidableEq κ]

def empty : Timing κ := ⟨0, [], [], []⟩

/-- The start of the call that is running in a family. -/
def startOf (t : Timing κ) (family : Nat) : Option Instant := t.slots.get? family

/-- A context of a family of its own. -/
def create (t : Timing κ) (context : κ) : Timing κ :=
  { t with families := t.families + 1, contexts := t.contexts.insert context t.families }

/-- A copy of a context. -/
def clone (t : Timing κ) (copy context : κ) : Timing κ :=
  match t.contexts.get? context with
  | none => t
  | some family => { t with contexts := t.contexts.insert copy family }

/-- Drops a context. -/
def forget (t : Timing κ) (context : κ) : Timing κ :=
  { t with contexts := t.contexts.erase context }

/-- The start of the call that is running on a context. -/
def startedAt (t : Timing κ) (context : κ) : Option Instant :=
  (t.contexts.get? context).bind t.startOf

def isRunning (t : Timing κ) (context : κ) : Bool := (t.startedAt context).isSome

/-- From idle to running, under a new guard. -/
def enter (t : Timing κ) (guard context : κ) (now : Instant) : Except CallError (Timing κ) :=
  match t.contexts.get? context with
  | none => .ok t
  | some family =>
    match t.startOf family with
    | some _ => .error .race
    | none =>
      .ok { t with
        slots := t.slots.insert family now
        guards := t.guards.insert guard ⟨family, now⟩ }

/-- Ends the call that is running in a family, if there is one. -/
def reset (t : Timing κ) (family : Nat) : Timing κ := { t with slots := t.slots.erase family }

/-- A guard goes.  Unless its call was finished before, that ends it. -/
def discard (t : Timing κ) (guard : κ) (finished : Bool) : Timing κ :=
  match t.guards.get? guard with
  | none => t
  | some g =>
    let left := { t with guards := t.guards.erase guard }
    if finished then left else left.reset g.family

/-- From running to idle: a guard that is dropped clears the slot of its family. -/
def release (t : Timing κ) (guard : κ) : Timing κ := t.discard guard false

/-- From running to idle: finishes the call of a guard, and tells how long it ran.  The guard
goes with it. -/
def finish (t : Timing κ) (guard : κ) (now : Instant) : Option Duration × Timing κ :=
  match t.guards.get? guard with
  | none => (none, t)
  | some g => (some (now - g.startedAt), (t.reset g.family).discard guard true)

end Timing

end Backchannel
