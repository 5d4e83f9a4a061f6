/-
# Backchannel.CommandLine.Report -- telling of a failure

A failure is told with what lies beneath it, the outermost first.  Several causes
are numbered.
-/

namespace Backchannel.CommandLine

set_option autoImplicit false

/-- A failure and the causes beneath it, from the outermost on. -/
structure Failure where
  top : String
  causes : List String
  deriving DecidableEq, Repr

namespace Failure

/-- A cause behind its mark; further lines of it are indented as deep. -/
def causeText (mark indent cause : String) : String :=
  "\n" ++ mark ++ String.intercalate ("\n" ++ indent) (cause.splitOn "\n")

def numberMark (n : Nat) : String :=
  let digits := toString n
  String.ofList (List.replicate (5 - digits.length) ' ') ++ digits ++ ": "

/-- The text of a failure, a line end behind it. -/
def report (f : Failure) : String :=
  let causes :=
    match f.causes with
    | [] => ""
    | [cause] => "\n\nCaused by:" ++ causeText "    " "    " cause
    | causes =>
      "\n\nCaused by:" ++ String.join (causes.zipIdx.map fun e =>
        causeText (numberMark e.2) "       " e.1)
  "Error: " ++ f.top ++ causes ++ "\n"

end Failure

end Backchannel.CommandLine
