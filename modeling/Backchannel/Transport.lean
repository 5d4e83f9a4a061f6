/-
# Backchannel.Transport -- a connection to the daemon

A plugin that the daemon started talks to it over its standard streams.  One that
runs elsewhere connects to the daemon, which may take several attempts, and first
says its install key on a line of its own.
-/
import Backchannel.Config

namespace Backchannel

set_option autoImplicit false

open Backchannel.Text (quoted)

/-- A failure of the system beneath, in the system's words. -/
abbrev SystemFailure := String

/-- What becomes of a text that is written over a connection. -/
abbrev Wire := String → Except SystemFailure Unit

/-- What happens when an address is dialled, for each attempt from the first on: there is a
connection, or there is none. -/
abbrev Dial := String → Nat → Except SystemFailure Wire

/-- No host is reached. -/
def Dial.unreachable : Dial := fun _ _ => .error "Network is unreachable (os error 101)"

inductive TransportError where
  /-- Plugins of that kind have no connection. -/
  | unsupported (method : InstallMethod)
  | missingKey
  | connect (address : String) (attempts : Nat) (how : SystemFailure)
  /-- The connection is there, and the key could not be said. -/
  | handshake (address : String) (how : SystemFailure)
  deriving DecidableEq, Repr

namespace TransportError

/-- The name of the error, without its particulars. -/
def title : TransportError → String
  | .unsupported _ => "Unsupported"
  | .missingKey => "MissingKey"
  | .connect _ _ _ => "Connect"
  | .handshake _ _ => "Handshake"

def message : TransportError → String
  | .unsupported method =>
    s!"install method {method.name} has no duplex transport; use serverless::HttpInvoker"
  | .missingKey => "remote install needs REMOTE_INSTALL_KEY"
  | .connect address attempts how =>
    s!"could not connect to {address} after {attempts} attempt(s): {how}"
  | .handshake address how => s!"handshake with {address} failed: {how}"

/-- The failure beneath this one, if there is one. -/
def source : TransportError → Option SystemFailure
  | .connect _ _ how | .handshake _ how => some how
  | .unsupported _ | .missingKey => none

end TransportError

/-- A connection that is open. -/
structure Transport where
  /-- The other end, in words. -/
  peer : String
  /-- What was written before the first frame. -/
  hello : String
  deriving DecidableEq, Repr

namespace Transport

/-- The connection over the standard streams. -/
def standard : Transport := ⟨"stdio", ""⟩

/-- What a programmer is shown of a connection. -/
def describe (t : Transport) : String :=
  "Transport \x7b peer: " ++ quoted t.peer ++ ", .. \x7d"

/-- The line that says the install key. -/
def keyLine (key : String) : String := key ++ "\n"

def address (host : String) (port : Nat) : String := host ++ ":" ++ toString port

/-- Dials until an attempt succeeds, `left` more times after this attempt. -/
def dialFrom (dial : Dial) (address : String) (attempt : Nat) :
    Nat → Except TransportError Wire
  | 0 =>
    match dial address attempt with
    | .ok wire => .ok wire
    | .error how => .error (.connect address attempt how)
  | left + 1 =>
    match dial address attempt with
    | .ok wire => .ok wire
    | .error _ => dialFrom dial address (attempt + 1) left

/-- Connects to a daemon, in that many attempts but one at least, and says the key. -/
def connect (dial : Dial) (host : String) (port : Nat) (key : String) (attempts : Nat) :
    Except TransportError Transport := do
  let address := address host port
  let wire ← dialFrom dial address 1 (attempts - 1)
  match wire (keyLine key) with
  | .ok () => return ⟨address, keyLine key⟩
  | .error how => throw (.handshake address how)

/-- How often a daemon is dialled at the start. -/
def attempts : Nat := 3

/-- The connection that a configuration asks for. -/
def ofConfig (dial : Dial) (c : Config) : Except TransportError Transport :=
  match c.install with
  | .local => .ok standard
  | .remote =>
    match c.remoteKey with
    | some key => connect dial c.remoteHost c.remotePort key attempts
    | none => .error .missingKey
  | .serverless => .error (.unsupported c.install)

end Transport

end Backchannel
