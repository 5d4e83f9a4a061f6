/-
# Backchannel.Config -- settings from the environment

A plugin is configured by environment variables, which a file of variables may
supply in part.  Values are trimmed; a blank one counts as unset, and what is unset
has its default.  The variables are looked at in a fixed order, and the first that
is wrong is reported.
-/
import Backchannel.EnvFile
import Backchannel.Install
import Backchannel.Kind
import Backchannel.Numeric.Literal
import Backchannel.Session.Basic
import Backchannel.Text.Quoted

namespace Backchannel

set_option autoImplicit false

open Backchannel.Numeric
open Backchannel.Text (quoted)

/-- The variables that are looked at. -/
inductive Variable where
  | requestTimeout
  | maxWorkers
  | heartbeatEvery
  | installMethod
  | remoteHost
  | remotePort
  | remoteKey
  | daemonUrl
  | queueCapacity
  | logLevel
  | logDir
  deriving DecidableEq, Repr

def Variable.name : Variable → String
  | .requestTimeout => "MAX_REQUEST_TIMEOUT"
  | .maxWorkers => "MAX_WORKER"
  | .heartbeatEvery => "HEARTBEAT_INTERVAL"
  | .installMethod => "INSTALL_METHOD"
  | .remoteHost => "REMOTE_INSTALL_HOST"
  | .remotePort => "REMOTE_INSTALL_PORT"
  | .remoteKey => "REMOTE_INSTALL_KEY"
  | .daemonUrl => "DIFY_PLUGIN_DAEMON_URL"
  | .queueCapacity => "BACKWARDS_QUEUE_CAPACITY"
  | .logLevel => "LOG_LEVEL"
  | .logDir => "LOG_DIR"

/-- The longest wait that may be configured: one year. -/
def maxConfiguredWait : Duration := Duration.ofSeconds (365 * 24 * 60 * 60)

/-- Why a value is refused. -/
inductive Refusal where
  | notWhole (how : WholeFault)
  | notReal
  | notPositive
  | negativeSpan
  /-- The span is infinite, is no number, or has too many seconds. -/
  | hugeSpan
  | overLimit
  | unknownName
  deriving DecidableEq, Repr

def Refusal.message : Refusal → String
  | .notWhole how => how.message
  | .notReal => "invalid float literal"
  | .notPositive => "must be positive"
  | .negativeSpan => "cannot convert float seconds to Duration: value is negative"
  | .hugeSpan => "cannot convert float seconds to Duration: value is either too big or NaN"
  | .overLimit => s!"must be at most {Duration.seconds maxConfiguredWait} seconds"
  | .unknownName => unknownNameMessage

inductive ConfigError where
  | invalid (var : Variable) (value : String) (why : Refusal)
  /-- The install method needs a variable that is not set. -/
  | missing (var : Variable) (method : InstallMethod)
  | envFile (path : String) (how : EnvFile.Failure)
  deriving DecidableEq, Repr

namespace ConfigError

/-- The name of the error, without its particulars. -/
def title : ConfigError → String
  | .invalid _ _ _ => "Invalid"
  | .missing _ _ => "Missing"
  | .envFile _ _ => "EnvFile"

def message : ConfigError → String
  | .invalid var value why => s!"{var.name} has invalid value {quoted value}: {why.message}"
  | .missing var method => s!"{var.name} must be set when INSTALL_METHOD={method.name}"
  | .envFile path how => s!"failed to load env file {path}: {how.message}"

end ConfigError

structure Config where
  requestTimeout : Duration
  maxWorkers : Nat
  heartbeatEvery : Option Duration
  install : InstallMethod
  remoteHost : String
  remotePort : Nat
  remoteKey : Option String
  daemonUrl : String
  queueCapacity : Nat
  logLevel : String
  logDir : Option String
  deriving DecidableEq, Repr

namespace Config

def defaults : Config where
  requestTimeout := Settings.defaultTimeout
  maxWorkers := 1000
  heartbeatEvery := some Settings.defaultHeartbeat
  install := .local
  remoteHost := "localhost"
  remotePort := 5003
  remoteKey := none
  daemonUrl := "http://localhost:5002"
  queueCapacity := Settings.defaultCapacity
  logLevel := "info"
  logDir := none

/-! ## Readings of a value -/

def whole (bound : Nat) (value : String) : Except Refusal Nat :=
  match readWhole bound value with
  | .ok n => .ok n
  | .error how => .error (.notWhole how)

def positive (n : Nat) : Except Refusal Nat := if n = 0 then .error .notPositive else .ok n

def bounded (wait : Duration) : Except Refusal Duration :=
  if maxConfiguredWait < wait then .error .overLimit else .ok wait

/-- A positive number of whole seconds. -/
def timeout (value : String) : Except Refusal Duration := do
  let seconds ← whole (wordValues 64) value
  let seconds ← positive seconds
  bounded (Duration.ofSeconds seconds)

/-- The span of a number of seconds, rounded to the nearest nanosecond, a tie to the
even one. -/
def span (x : Extended) : Except Refusal Duration :=
  match x with
  | .infinite true => .error .negativeSpan
  | .infinite false | .notANumber => .error .hugeSpan
  | .finite x =>
    if x.negative ∧ x.isZero = false then .error .negativeSpan
    else if wordValues 64 * x.den ≤ x.num then .error .hugeSpan
    else .ok (roundDiv (x.num * 1000000000) x.den)

/-- A number of seconds, which may have a fraction; none at all for zero. -/
def interval (value : String) : Except Refusal (Option Duration) :=
  match readReal value with
  | none => .error .notReal
  | some (.finite x) =>
    if x.isZero then .ok none
    else do
      let every ← span (.finite x)
      let every ← bounded every
      return some every
  | some x => do
    let every ← span x
    let every ← bounded every
    return some every

def method (value : String) : Except Refusal InstallMethod :=
  match InstallMethod.ofName? value with
  | some m => .ok m
  | none => .error .unknownName

def capacity (value : String) : Except Refusal Nat := do
  let n ← whole (wordValues 64) value
  positive n

/-! ## Reading -/

/-- The value of a variable, trimmed; none if it is blank. -/
def get (lookup : String → Option String) (var : Variable) : Option String :=
  match (lookup var.name).map Text.trim with
  | some value => if value.isEmpty then none else some value
  | none => none

/-- The setting of a variable, `default` if it is not set. -/
def setting {α : Type} (lookup : String → Option String) (var : Variable) (default : α)
    (read : String → Except Refusal α) : Except ConfigError α :=
  match get lookup var with
  | none => .ok default
  | some value =>
    match read value with
    | .ok a => .ok a
    | .error why => .error (.invalid var value why)

/-- The configuration that a look-up of variables gives. -/
def ofLookup (lookup : String → Option String) : Except ConfigError Config := do
  let requestTimeout ← setting lookup .requestTimeout defaults.requestTimeout timeout
  let maxWorkers ← setting lookup .maxWorkers defaults.maxWorkers (whole (wordValues 64))
  let heartbeatEvery ← setting lookup .heartbeatEvery defaults.heartbeatEvery interval
  let install ← setting lookup .installMethod defaults.install method
  let remoteHost ← setting lookup .remoteHost defaults.remoteHost .ok
  let remotePort ← setting lookup .remotePort defaults.remotePort (whole (wordValues 16))
  let daemonUrl ← setting lookup .daemonUrl defaults.daemonUrl .ok
  let queueCapacity ← setting lookup .queueCapacity defaults.queueCapacity capacity
  let logLevel ← setting lookup .logLevel defaults.logLevel .ok
  let remoteKey := get lookup .remoteKey
  let logDir := get lookup .logDir
  if install = .remote ∧ remoteKey = none then .error (.missing .remoteKey install)
  else
    .ok ⟨requestTimeout, maxWorkers, heartbeatEvery, install, remoteHost, remotePort, remoteKey,
      daemonUrl, queueCapacity, logLevel, logDir⟩

/-- The part that a session needs. -/
def settings (c : Config) : Settings := ⟨c.requestTimeout, c.heartbeatEvery, c.queueCapacity⟩

/-! ## Loading -/

/-- A file of variables that was asked for. -/
structure EnvSource where
  path : String
  /-- What it holds, if there is such a file. -/
  content : Option Text.Utf8.Bytes

/-- The configuration of an environment, which a file of variables supplements
first.  The answer holds the environment afterwards. -/
def load (source : Option EnvSource) (env : Environment) :
    Except ConfigError Config × Environment :=
  match source with
  | none => (ofLookup (fun name => env.get? name), env)
  | some source =>
    match source.content with
    | none => (.error (.envFile source.path .missing), env)
    | some bytes =>
      match EnvFile.load bytes env with
      | (.error how, env) => (.error (.envFile source.path how), env)
      | (.ok (), env) => (ofLookup (fun name => env.get? name), env)

end Config

end Backchannel
