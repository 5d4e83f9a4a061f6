/-
# Backchannel.Endpoint -- where requests are posted

Without a connection of its own a plugin posts each request to one address beneath
that of its daemon.
-/
import Backchannel.Text.Blank
import Backchannel.Text.Quoted
import Backchannel.Url.Parser

namespace Backchannel

set_option autoImplicit false

open Backchannel.Text (quoted)

namespace Endpoint

/-- The path beneath the daemon's address. -/
def transactionPath : String := "backwards-invocation/transaction"

/-- The daemon's address is none. -/
structure Invalid where
  url : String
  why : Url.Fault
  deriving DecidableEq, Repr

def Invalid.message (e : Invalid) : String :=
  s!"invalid daemon url {quoted e.url}: {e.why.message}"

/-- The address for requests to a daemon.  Slashes at the end of the daemon's address
do not count. -/
def ofDaemon (url : String) : Except Invalid Url :=
  let base := Text.trimRight (· == '/') url.toList
  match Url.ofText (String.ofList base ++ "/" ++ transactionPath) with
  | .ok endpoint => .ok endpoint
  | .error why => .error ⟨url, why⟩

end Endpoint

end Backchannel
