/-
# Backchannel.CommandLine.Help -- what the arguments may be

Each level of the command line has a page of its own, and so has the word `help` where
it may stand.  A page tells what the level is for, how its arguments are put, and
then its commands, words and options, each in two aligned columns.
-/
import Backchannel.CommandLine.Arguments

namespace Backchannel.CommandLine

set_option autoImplicit false

/-- An argument and what it is for. -/
structure HelpRow where
  argument : String
  purpose : String
  deriving DecidableEq, Repr

structure HelpSection where
  title : String
  rows : List HelpRow
  deriving DecidableEq, Repr

structure HelpPage where
  purpose : Option String
  usage : String
  sections : List HelpSection
  deriving DecidableEq, Repr

namespace HelpSection

def width (s : HelpSection) : Nat := (s.rows.map (·.argument.length)).foldl max 0

def write (s : HelpSection) : String :=
  let line (row : HelpRow) : String :=
    let gap := String.ofList (List.replicate (s.width + 2 - row.argument.length) ' ')
    "  " ++ row.argument ++ gap ++ row.purpose ++ "\n"
  s.title ++ ":\n" ++ String.join (s.rows.map line)

end HelpSection

def HelpPage.write (page : HelpPage) : String :=
  (page.purpose.map (· ++ "\n\n")).getD "" ++ "Usage: " ++ page.usage ++ "\n\n" ++
    String.intercalate "\n" (page.sections.map HelpSection.write)

/-! ## The pages -/

def programName : String := "plugin_runtime"

/-- The words that lead to a level. -/
def Level.words : Level → String
  | .top => programName
  | .run => programName ++ " run"
  | .storage => programName ++ " storage"
  | .operation verb => programName ++ " storage " ++ verb

def Level.purpose? : Level → Option String
  | .top => some "Plugin-side runtime for backwards invocation"
  | .run => some "Connect to the daemon and serve until the session closes"
  | .storage => some "One storage call against the daemon (remote or serverless installs)"
  | .operation _ => none

/-- The levels right below one. -/
def Level.below : Level → List (String × Level)
  | .top => [("run", .run), ("storage", .storage)]
  | .storage => ["get", "set", "delete", "exists"].map fun verb => (verb, .operation verb)
  | .run | .operation _ => []

def helpPurpose : String := "Print this message or the help of the given subcommand(s)"

def Level.commandRows (level : Level) : List HelpRow :=
  if level.below.isEmpty then []
  else level.below.map (fun e => ⟨e.1, e.2.purpose?.getD ""⟩) ++ [⟨"help", helpPurpose⟩]

/-- The words that a level takes itself. -/
def Level.wordNames (level : Level) : List String := ["<KEY>", "<VALUE>"].take (wordCount level)

def Level.optionRows (level : Level) : List HelpRow :=
  let session : HelpRow := ⟨"    --session-id <SESSION_ID>", "Plugin session id to act for"⟩
  let version : HelpRow := ⟨"-V, --version", "Print version"⟩
  [⟨"    --env-file <ENV_FILE>", "`.env` file to seed the environment from"⟩] ++
    (if level = .storage then [session] else []) ++
    [⟨"    --log-level <LOG_LEVEL>",
        "Log filter override (e.g. error, warn, info, debug, trace)"⟩,
      ⟨"    --log-dir <LOG_DIR>", "Write daily rolling logs here instead of stderr"⟩,
      ⟨"-h, --help", "Print help"⟩] ++
    (if level = .top then [version] else [])

/-- Only below the top a deeper level has to be named. -/
def Level.usage (level : Level) : String :=
  let tail :=
    match level with
    | .top => ["[COMMAND]"]
    | .storage => ["<COMMAND>"]
    | .run | .operation _ => level.wordNames
  String.intercalate " " (level.words :: "[OPTIONS]" :: tail)

def Level.page (level : Level) : HelpPage where
  purpose := level.purpose?
  usage := level.usage
  sections :=
    [⟨"Commands", level.commandRows⟩, ⟨"Arguments", level.wordNames.map (⟨·, ""⟩)⟩,
      ⟨"Options", level.optionRows⟩].filter fun s => !s.rows.isEmpty

/-- The page of the word `help` at a level. -/
def Level.helpPage (level : Level) : HelpPage where
  purpose := some helpPurpose
  usage := level.words ++ " help [COMMAND]..."
  sections := [⟨"Arguments", [⟨"[COMMAND]...", "Print help for the subcommand(s)"⟩]⟩]

def Topic.page : Topic → HelpPage
  | .level l => l.page
  | .help l => l.helpPage

end Backchannel.CommandLine
