/-
# Backchannel.CommandLine.Arguments -- reading the arguments

    plugin_runtime [--env-file FILE] [--log-level LEVEL] [--log-dir DIR] [run]
    plugin_runtime … storage [--session-id ID] get KEY | set KEY VALUE | delete KEY | exists KEY

The three options in front may stand anywhere; the one that stands deepest counts.
An option takes its value behind an equals sign or as the next argument, which then
may not look like an option.  Two hyphens end the options.

Arguments are read from left to right, and the first that is wrong ends the reading,
as does a request for the version or for help.
-/
import Backchannel.Storage
import Backchannel.Text.Utf8

namespace Backchannel.CommandLine

set_option autoImplicit false

/-- The options that may stand anywhere. -/
structure CommonOptions where
  envFile : Option String
  logLevel : Option String
  logDir : Option String
  deriving DecidableEq, Repr

def CommonOptions.empty : CommonOptions := ⟨none, none, none⟩

/-- The options of a deeper level, and those above where it has none. -/
def CommonOptions.orElse (deep above : CommonOptions) : CommonOptions :=
  ⟨deep.envFile.or above.envFile, deep.logLevel.or above.logLevel, deep.logDir.or above.logDir⟩

inductive Command where
  /-- Serve until the session closes. -/
  | run
  /-- One operation on the daemon's storage, for a plugin session. -/
  | storage (sessionId : Option String) (op : Storage.Operation)
  deriving DecidableEq, Repr

/-- Where options may stand. -/
inductive Level where
  | top
  | run
  | storage
  | operation (verb : String)
  deriving DecidableEq, Repr

/-- What help is asked for. -/
inductive Topic where
  | level (level : Level)
  /-- The word `help`, as it may stand at a level. -/
  | help (level : Level)
  deriving DecidableEq, Repr

/-- How the reading of arguments ends early. -/
inductive Stop where
  /-- An argument is wrong, or one is missing. -/
  | misuse
  | version
  | help (topic : Topic)
  deriving DecidableEq, Repr

/-- The options that a level takes a value for. -/
inductive OptionName where
  | envFile
  | logLevel
  | logDir
  | sessionId
  deriving DecidableEq, Repr

def optionOf? (level : Level) (name : String) : Option OptionName :=
  match name with
  | "env-file" => some .envFile
  | "log-level" => some .logLevel
  | "log-dir" => some .logDir
  | "session-id" => if level = .storage then some .sessionId else none
  | _ => none

/-- What was read at one level. -/
structure Found where
  options : CommonOptions
  sessionId : Option String
  /-- Arguments that belong to no option. -/
  words : List String
  deriving DecidableEq, Repr

namespace Found

def empty : Found := ⟨.empty, none, []⟩

/-- Notes the value of an option.  An option is given once at a level, and the name of
a file or of a directory is not empty. -/
def put (name : OptionName) (value : String) (f : Found) : Except Stop Found :=
  match name with
  | .envFile =>
    if f.options.envFile.isSome || value.isEmpty then .error .misuse
    else .ok { f with options := { f.options with envFile := some value } }
  | .logLevel =>
    if f.options.logLevel.isSome then .error .misuse
    else .ok { f with options := { f.options with logLevel := some value } }
  | .logDir =>
    if f.options.logDir.isSome || value.isEmpty then .error .misuse
    else .ok { f with options := { f.options with logDir := some value } }
  | .sessionId =>
    if f.sessionId.isSome then .error .misuse else .ok { f with sessionId := some value }

end Found

/-- What an argument looks like. -/
inductive Shape where
  | word
  /-- Two hyphens alone. -/
  | divider
  | long (name : String) (value : Option String)
  | short (first : Char)
  deriving DecidableEq, Repr

def Shape.of (arg : String) : Shape :=
  match arg.toList with
  | ['-', '-'] => .divider
  | '-' :: '-' :: rest =>
    let name := String.ofList (rest.takeWhile (· ≠ '='))
    match rest.dropWhile (· ≠ '=') with
    | [] => .long name none
    | _ :: value => .long name (some (String.ofList value))
  | '-' :: c :: _ => .short c
  | _ => .word

/-- An option that takes no value. -/
def flag (level : Level) (name : String) : Stop :=
  match name with
  | "help" | "h" => .help (.level level)
  | "version" | "V" => if level = .top then .version else .misuse
  | _ => .misuse

/-- How many words a level takes, where words are not names of deeper levels. -/
def wordCount : Level → Nat
  | .operation "set" => 2
  | .operation _ => 1
  | _ => 0

/-- The deeper level that a word names. -/
def deeper? (level : Level) (word : String) : Option Level :=
  match level, word with
  | .top, "run" => some .run
  | .top, "storage" => some .storage
  | .storage, "get" | .storage, "set" | .storage, "delete" | .storage, "exists" =>
    some (.operation word)
  | _, _ => none

/-- The levels whose words name deeper ones. -/
def Level.isInner : Level → Bool
  | .top | .storage => true
  | .run | .operation _ => false

/-- What the words behind `help` ask about: each names a level below the one before. -/
def topicOf? (level : Level) : List String → Option Topic
  | [] => some (.level level)
  | [word] =>
    if level.isInner && word == "help" then some (.help level)
    else (deeper? level word).map .level
  | word :: rest => (deeper? level word).bind fun deeper => topicOf? deeper rest

/-- A word that belongs to no option. -/
def putWord (level : Level) (word : String) (f : Found) : Except Stop Found :=
  if f.words.length < wordCount level then .ok { f with words := f.words ++ [word] }
  else .error .misuse

/-- The words behind the divider. -/
def putWords (level : Level) : List String → Found → Except Stop Found
  | [], f => .ok f
  | word :: rest, f => (putWord level word f).bind (putWords level rest)

/-- Reads one level.  The answer holds what was read, and the deeper level that was
named with the arguments behind its name. -/
def readLevel (level : Level) : List String → Found →
    Except Stop (Found × Option (Level × List String))
  | [], f => .ok (f, none)
  | arg :: rest, f =>
    match Shape.of arg with
    | .word =>
      if level.isInner then
        if arg = "help" then .error (((topicOf? level rest).map .help).getD .misuse)
        else
          match deeper? level arg with
          | some deeper => .ok (f, some (deeper, rest))
          | none => .error .misuse
      else (putWord level arg f).bind (readLevel level rest)
    | .divider => (putWords level rest f).map fun f => (f, none)
    | .short c => .error (flag level (String.singleton c))
    | .long name value =>
      match optionOf? level name, value with
      | some option, some value => (f.put option value).bind (readLevel level rest)
      | some option, none =>
        match rest with
        | value :: rest =>
          if Shape.of value = .word then (f.put option value).bind (readLevel level rest)
          else .error .misuse
        | [] => .error .misuse
      | none, none => .error (flag level name)
      | none, some _ => .error .misuse

def operation? (verb : String) (words : List String) : Option Storage.Operation :=
  match verb, words with
  | "get", [key] => some (.get key)
  | "set", [key, value] => some (.set key (Text.Utf8.bytesOf value))
  | "delete", [key] => some (.delete key)
  | "exists", [key] => some (.has key)
  | _, _ => none

/-- The command that the arguments ask for, with its options. -/
def readArguments (args : List String) : Except Stop (CommonOptions × Command) := do
  let (top, next) ← readLevel .top args .empty
  match next with
  | none => return (top.options, .run)
  | some (.storage, rest) =>
    let (storage, next) ← readLevel .storage rest .empty
    match next with
    | some (.operation verb, rest) =>
      let (found, _) ← readLevel (.operation verb) rest .empty
      match operation? verb found.words with
      | some op =>
        let options := found.options.orElse (storage.options.orElse top.options)
        return (options, .storage storage.sessionId op)
      | none => .error .misuse
    | _ => .error .misuse
  | some (level, rest) =>
    let (found, _) ← readLevel level rest .empty
    return (found.options.orElse top.options, .run)

end Backchannel.CommandLine
