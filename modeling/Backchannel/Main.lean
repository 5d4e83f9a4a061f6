/-
# Backchannel.Main -- the program at its terminal

The outermost layer: it hands the program its arguments, its files and variables and
a fresh id, and carries out what the program decides.  Serving is done over the
standard streams, with the clock of the machine.  Nothing here dials or posts: to
the program no host is reachable.
-/
import Backchannel.CommandLine.Program

namespace Backchannel.CommandLine

set_option autoImplicit false

open Backchannel.Text.Utf8 (Bytes)

/-! ## Surroundings -/

/-- What a file holds, if it can be read. -/
def readFile? (path : String) : IO (Option Bytes) :=
  try
    return some (← IO.FS.readBinFile path).toList
  catch _ =>
    return none

/-- The names that a file of variables may refer to. -/
def namesIn (bytes : Bytes) : List String :=
  let isNamePart (c : Char) : Bool := c.isAlphanum || c == '_'
  let spaced := (Text.Utf8.decodeLossy bytes).map fun c => if isNamePart c then c else ' '
  (spaced.splitOn " ").filter (· ≠ "")

def allVariables : List Variable :=
  [.requestTimeout, .maxWorkers, .heartbeatEvery, .installMethod, .remoteHost, .remotePort,
    .remoteKey, .daemonUrl, .queueCapacity, .logLevel, .logDir]

/-- The variables of that name that are set. -/
def readEnvironment (names : List String) : IO Environment := do
  let found ← names.eraseDups.mapM fun name => do
    return (← IO.getEnv name).map fun value => (name, value)
  return found.filterMap id

def freshId : IO RequestId := do
  return Text.Hex.encode (← IO.getRandomBytes 16).toList

/-- What the program meets, but for its standard input. -/
def readSurroundings (args : List String) : IO Surroundings := do
  let path? := match readArguments args with
    | .ok (options, _) => options.envFile
    | .error _ => none
  let content ← match path? with
    | some path => readFile? path
    | none => pure none
  let names := allVariables.map Variable.name ++ namesIn (content.getD [])
  return {
    env := ← readEnvironment names
    file := fun path => if some path = path? then content else none
    stdin := []
    dial := .unreachable
    daemon := fun _ => []
    network := .unreachable
    id := ← freshId }

/-! ## Serving -/

/-- The standard streams while a plugin serves over them. -/
structure Serving where
  input : IO.FS.Stream
  output : IO.FS.Stream
  /-- The clock of the machine when the plugin was launched. -/
  launched : Nat

/-- Writes the lines that were written since, and takes them from the plugin. -/
def Serving.write (io : Serving) (p : Plugin) : IO Plugin := do
  for line in p.session.written do
    io.output.putStr line
  io.output.flush
  return { p with session := { p.session with written := [] } }

/-- Lets the plugin's time catch up with the clock of the machine. -/
def Serving.catchUp (io : Serving) (p : Plugin) : IO Plugin := do
  let now := Duration.ofMillis ((← IO.monoMsNow) - io.launched)
  io.write (p.act (.clock (.advance (now - p.session.now)))).2

/-- Serves until the session is closed, with a read of the input under way. -/
partial def Serving.loop (io : Serving) (reading : Task (Except IO.Error ByteArray))
    (p : Plugin) : IO Unit := do
  let p ← io.catchUp p
  if p.session.status.isClosed then return
  if ← IO.hasFinished reading then
    match reading.get with
    | .error _ => return
    | .ok bytes =>
      if bytes.isEmpty then
        let _ ← io.write (p.act (.daemon .hangUp)).2
      else
        let p ← io.write (p.act (.daemon (.write bytes.toList))).2
        io.loop (← IO.asTask (io.input.read 4096)) p
  else
    IO.sleep 5
    io.loop reading p

def serveTerminal (c : Config) : IO Unit := do
  let io : Serving := ⟨← IO.getStdin, ← IO.getStdout, ← IO.monoMsNow⟩
  if c.install = .local then
    io.loop (← IO.asTask (io.input.read 4096)) (.launch c.settings)

/-- Carries out how the program ends. -/
def finish (ending : Ending) : IO UInt32 := do
  (← IO.getStdout).putStr ending.stdout
  if let some failure := ending.failure then
    (← IO.getStderr).putStr failure.report
  return UInt32.ofNat ending.exit

end Backchannel.CommandLine

open Backchannel.CommandLine in
def main (args : List String) : IO UInt32 := do
  match start args (← readSurroundings args) with
  | .ok c =>
    serveTerminal c
    return 0
  | .error ending => finish ending
