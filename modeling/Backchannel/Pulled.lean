/-
# Backchannel.Pulled -- what a pull brings

Replies are pulled one at a time.  A pull brings an item, the end, a failure, or
nothing yet.
-/
import Backchannel.CallError

namespace Backchannel

set_option autoImplicit false

/-- What one pull from a source of items brings. -/
inductive Pulled (α : Type) where
  /-- Nothing is there yet. -/
  | pending
  | item (a : α)
  /-- No item is left, nor will one come. -/
  | finished
  | failed (e : CallError)
  deriving DecidableEq

namespace Pulled

/-- Neither an item nor a later pull can bring one. -/
def isOver {α : Type} : Pulled α → Bool
  | .finished | .failed _ => true
  | .pending | .item _ => false

end Pulled

end Backchannel
