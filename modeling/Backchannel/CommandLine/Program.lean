/-
# Backchannel.CommandLine.Program -- what the program does

The program loads its configuration and then either serves the daemon until the
session closes, or makes one call to the daemon's storage and prints its result.

`Surroundings` is all that the program meets: files, variables, its input, and what
answers when it dials or posts.
-/
import Backchannel.CommandLine.Help
import Backchannel.CommandLine.Report
import Backchannel.Http.Client
import Backchannel.Plugin.Action
import Backchannel.Transport

namespace Backchannel.CommandLine

set_option autoImplicit false

open Backchannel.Text.Utf8 (Bytes)

structure Surroundings where
  env : Environment
  /-- What a file holds, if it is there. -/
  file : String → Option Bytes
  stdin : Bytes
  dial : Dial
  /-- What a daemon that was dialled writes, given the id of the first request, before
  it hangs up. -/
  daemon : RequestId → Bytes
  network : Http.Network
  /-- The id of the first request. -/
  id : RequestId

/-- How the program ends. -/
structure Ending where
  exit : Nat
  stdout : String
  failure : Option Failure
  deriving DecidableEq, Repr

namespace Ending

def success (stdout : String) : Ending := ⟨0, stdout, none⟩

def failed (f : Failure) : Ending := ⟨1, "", some f⟩

/-- The arguments are wrong; how is told elsewhere. -/
def misuse : Ending := ⟨2, "", none⟩

end Ending

def versionText : String := programName ++ " 0.1.0\n"

/-! ## Causes -/

def configCauses (e : ConfigError) : List String :=
  match e with
  | .envFile _ how => e.message :: (how.message :: how.source.toList)
  | _ => [e.message]

def transportCauses (e : TransportError) : List String := e.message :: e.source.toList

def callFailure (e : CallError) : Failure :=
  match e with
  | .decode _ source | .encode source => ⟨e.message, [source.message]⟩
  | _ => ⟨e.message, []⟩

/-! ## Commands -/

/-- The configuration, with the options that go before it. -/
def configure (options : CommonOptions) (s : Surroundings) : Except Failure Config :=
  let source := options.envFile.map fun path => Config.EnvSource.mk path (s.file path)
  match (Config.load source s.env).1 with
  | .error e => .error ⟨"invalid configuration", configCauses e⟩
  | .ok c =>
    .ok { c with
      logLevel := options.logLevel.getD c.logLevel
      logDir := options.logDir.or c.logDir }

def connect (c : Config) (s : Surroundings) : Except Failure Transport :=
  match Transport.ofConfig s.dial c with
  | .ok t => .ok t
  | .error e => .error ⟨"could not open transport to plugin daemon", transportCauses e⟩

/-- A plugin that hears those bytes and then that the daemon hangs up. -/
def hear (bytes : Bytes) (p : Plugin) : Plugin :=
  ((p.act (.daemon (.write bytes))).2.act (.daemon .hangUp)).2

/-- Serves until the session closes: what is written to the standard output. -/
def serve (c : Config) (s : Surroundings) : String :=
  if c.install = .local then String.join (hear s.stdin (.launch c.settings)).session.written
  else ""

/-- What is printed of a result. -/
def printed : Storage.Answer → String
  | .done => "ok\n"
  | .bytes bytes => Text.Utf8.decodeLossy bytes ++ "\n"
  | .found found => (if found then "true" else "false") ++ "\n"

/-- One storage call over a connection. -/
def storageOverSession (c : Config) (sessionId : Option String) (op : Storage.Operation)
    (s : Surroundings) : Except CallError Storage.Answer :=
  let p := ((Plugin.launch c.settings).act
    (.plugin (.start s.id sessionId (.storage op)))).2
  match ((hear (s.daemon s.id) p).act (.plugin (.join s.id 0))).1 with
  | .answered (.ok (.stored answer)) => .ok answer
  | .answered (.error e) => .error e
  | _ => .error (.connectionClosed .endOfStream)

def storage (c : Config) (sessionId : Option String) (op : Storage.Operation)
    (s : Surroundings) : Except Failure String := do
  let result ←
    match c.install with
    | .local =>
      .error ⟨"the storage command needs INSTALL_METHOD=remote or serverless", []⟩
    | .remote =>
      let _ ← connect c s
      .ok (storageOverSession c sessionId op s)
    | .serverless =>
      match Endpoint.ofDaemon c.daemonUrl with
      | .error e => .error ⟨"invalid plugin daemon url", [e.message]⟩
      | .ok endpoint =>
        let client : Http.Client := ⟨endpoint, c.requestTimeout, s.network⟩
        .ok (client.storage s.id sessionId op)
  match result with
  | .ok answer => return printed answer
  | .error e => .error (callFailure e)

/-- Carries a command out, but for serving: where the program is to serve, the answer is
the configuration. -/
def execute (options : CommonOptions) (command : Command) (s : Surroundings) :
    Except Ending Config :=
  let course : Except Failure (Config ⊕ String) := do
    let c ← configure options s
    match command with
    | .run =>
      let _ ← connect c s
      return .inl c
    | .storage sessionId op => return .inr (← storage c sessionId op s)
  match course with
  | .ok (.inl c) => .ok c
  | .ok (.inr stdout) => .error (.success stdout)
  | .error f => .error (.failed f)

/-- Does all that comes before serving.  The answer is the configuration to serve with, or
how the program has ended without it. -/
def start (args : List String) (s : Surroundings) : Except Ending Config :=
  match readArguments args with
  | .ok (options, command) => execute options command s
  | .error .misuse => .error .misuse
  | .error .version => .error (.success versionText)
  | .error (.help topic) => .error (.success topic.page.write)

/-- Runs the program. -/
def run (args : List String) (s : Surroundings) : Ending :=
  match start args s with
  | .ok c => .success (serve c s)
  | .error ending => ending

end Backchannel.CommandLine
