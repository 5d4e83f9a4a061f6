/-
# Backchannel.Install -- how a plugin reaches its daemon
-/

namespace Backchannel

set_option autoImplicit false

inductive InstallMethod where
  /-- Started by the daemon, which it talks to over its standard streams. -/
  | local
  /-- Connects to the daemon over TCP. -/
  | remote
  /-- Makes an HTTP request of every call; there is no connection. -/
  | serverless
  deriving DecidableEq, Repr

namespace InstallMethod

def all : List InstallMethod := [.local, .remote, .serverless]

def name : InstallMethod → String
  | .local => "local"
  | .remote => "remote"
  | .serverless => "serverless"

/-- The name for a programmer's eyes. -/
def title : InstallMethod → String
  | .local => "Local"
  | .remote => "Remote"
  | .serverless => "Serverless"

/-- The method of that name, ASCII letters in either case. -/
def ofName? (s : String) : Option InstallMethod :=
  all.find? fun m => m.name == String.ofList (s.toList.map Char.toLower)

end InstallMethod

end Backchannel
