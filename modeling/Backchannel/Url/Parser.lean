/-
# Backchannel.Url.Parser -- reading addresses

`Url.ofText` reads an address.  Blanks and controls around it are dropped, and tabs
and line ends within it.  What the common schemes have in common is read leniently:
any number of slashes before the host, backslashes for slashes, and `.` and `..` in
paths.
-/
import Backchannel.Numeric.Word
import Backchannel.Text.Blank
import Backchannel.Url.Host

namespace Backchannel.Url

set_option autoImplicit false

/-! ## Schemes -/

/-- How the rest of an address is read. -/
inductive Family where
  | file
  /-- A common scheme with a host. -/
  | common
  | other
  deriving DecidableEq, Repr

def familyOf (scheme : String) : Family :=
  if scheme = "file" then .file
  else if ["http", "https", "ws", "wss", "ftp"].contains scheme then .common
  else .other

def Family.isSpecial : Family → Bool
  | .file | .common => true
  | .other => false

def defaultPort? (scheme : String) : Option Nat :=
  match scheme with
  | "http" | "ws" => some 80
  | "https" | "wss" => some 443
  | "ftp" => some 21
  | _ => none

def isSchemeChar (c : Char) : Bool := c.isAlphanum || c == '+' || c == '-' || c == '.'

/-- The scheme in lower case, and what follows its colon. -/
def splitScheme (cs : List Char) : Option (String × List Char) :=
  match cs.takeWhile isSchemeChar, cs.dropWhile isSchemeChar with
  | c :: scheme, ':' :: rest =>
    if c.isAlpha then some (String.ofList ((c :: scheme).map Char.toLower), rest) else none
  | _, _ => none

/-! ## Paths -/

def isSlash (special : Bool) (c : Char) : Bool := c == '/' || (special && c == '\\')

/-- Cuts a text behind each slash; whether a slash was there is told with each part. -/
def cutParts (special : Bool) : List Char → List (List Char × Bool)
  | [] => [([], false)]
  | c :: rest =>
    if isSlash special c then ([], true) :: cutParts special rest
    else
      match cutParts special rest with
      | [] => [([c], false)]
      | (part, slash) :: parts => (c :: part, slash) :: parts

/-- A dot may be percent-encoded. -/
def plainDots (segment : String) : String :=
  (segment.replace "%2e" ".").replace "%2E" "."

def isDriveLetter (s : String) : Bool :=
  match s.toList with
  | [c, mark] => c.isAlpha && (mark == ':' || mark == '|')
  | _ => false

def isNormalDriveLetter (s : String) : Bool :=
  match s.toList with
  | [c, ':'] => c.isAlpha
  | _ => false

/-- Removes the last segment; the letter of a drive stays, whatever the scheme. -/
def shorten (ss : List String) : List String :=
  if ss.getLast?.any isDriveLetter then ss else ss.dropLast

/-- Adds one part of a path to the segments so far. -/
def addPart (family : Family) (ss : List String) (part : List Char × Bool) : List String :=
  let segment := percentEncode pathMarks part.1
  let dots := plainDots segment
  if dots = ".." then
    let ss := shorten ss
    if part.2 then ss else ss ++ [""]
  else if dots = "." then if part.2 then ss else ss ++ [""]
  else if family = .file ∧ ss = [] ∧ isDriveLetter segment = true then
    [String.ofList (segment.toList.take 1 ++ [':'])]
  else ss ++ [segment]

/-- The segments of a path, behind its first slash and what was there before. -/
def segmentsOf (family : Family) (before : List String) (cs : List Char) : List String :=
  (cutParts family.isSpecial cs).foldl (addPart family) before

/-- A path without its first slash. -/
def behindSlash (family : Family) (cs : List Char) : List Char :=
  match cs with
  | [] => []
  | c :: rest => if isSlash family.isSpecial c then rest else cs

/-- A path in an address with a host. -/
def readPath (family : Family) (cs : List Char) : List String :=
  if cs.isEmpty && !family.isSpecial then [] else segmentsOf family [] (behindSlash family cs)

/-! ## What follows the path -/

structure Tail where
  query : Option String
  fragment : Option String

def isTailMark (c : Char) : Bool := c == '?' || c == '#'

/-- The query and the fragment of what follows a path. -/
def readTail (family : Family) (cs : List Char) : Tail :=
  let queryEncode := percentEncode (if family.isSpecial then specialQueryMarks else queryMarks)
  let fragment : List Char → Option String
    | _ :: rest => some (percentEncode fragmentMarks rest)
    | [] => none
  match cs with
  | '?' :: rest =>
    ⟨some (queryEncode (rest.takeWhile (· ≠ '#'))), fragment (rest.dropWhile (· ≠ '#'))⟩
  | rest => ⟨none, fragment rest⟩

/-! ## Users, hosts and ports -/

/-- The part in which a user may be named. -/
def endsAuthority (special : Bool) (c : Char) : Bool := isTailMark c || isSlash special c

/-- Splits at the last at-sign. -/
def splitAtLast (cs : List Char) : Option (List Char × List Char) :=
  if cs.contains '@' then
    let reversed := cs.reverse
    some ((reversed.dropWhile (· ≠ '@')).tail.reverse, (reversed.takeWhile (· ≠ '@')).reverse)
  else none

/-- The user and the password.  An empty password counts as none. -/
def readUser (cs : List Char) : String × Option String :=
  let user := percentEncode userMarks (cs.takeWhile (· ≠ ':'))
  match cs.dropWhile (· ≠ ':') with
  | [] | [_] => (user, none)
  | _ :: rest => (user, some (percentEncode userMarks rest))

/-- The host and what follows it.  A colon ends it, unless in brackets. -/
def splitHost (special : Bool) : Bool → List Char → List Char × List Char
  | _, [] => ([], [])
  | bracketed, c :: rest =>
    if (c = ':' ∧ bracketed = false) ∨ endsAuthority special c = true then ([], c :: rest)
    else
      let (host, behind) := splitHost special (c == '[' || (bracketed && c != ']')) rest
      (c :: host, behind)

/-- The port behind a colon, and what follows it. -/
def readPort : Nat → Bool → List Char → Except Fault (Option Nat × List Char)
  | n, any, [] => .ok (if any then some n else none, [])
  | n, any, c :: rest =>
    if c.isDigit then
      let n := 10 * n + (c.toNat - '0'.toNat)
      if n < Numeric.wordValues 16 then readPort n true rest else .error .badPort
    else if endsAuthority true c then .ok (if any then some n else none, c :: rest)
    else .error .badPort

/-- What stands between two slashes and the path. -/
structure Authority where
  user : String
  password : Option String
  host : Host
  port : Option Nat

def readAuthority (scheme : String) (cs : List Char) : Except Fault (Authority × List Char) := do
  let family := familyOf scheme
  let special := family.isSpecial
  let front := cs.takeWhile fun c => !endsAuthority special c
  let behind := cs.dropWhile fun c => !endsAuthority special c
  let (user, password, marked, rest) ←
    match splitAtLast front with
    | none => Except.ok ("", none, false, cs)
    | some ([], host) =>
      if host.isEmpty && !behind.isEmpty then .error .emptyHost
      else .ok ("", none, false, host ++ behind)
    | some (userText, host) =>
      let (user, password) := readUser userText
      .ok (user, password, !(user.isEmpty && password.isNone), host ++ behind)
  let (hostText, rest) := splitHost special false rest
  if family = .common ∧ hostText = [] then .error .emptyHost
  let host ← if special then readHost hostText else readPlainHost hostText
  let (port, rest) ←
    match rest with
    | ':' :: rest => if host = .name "" then .error .emptyHost else readPort 0 false rest
    | rest => .ok (none, rest)
  if host = .name "" ∧ (special = true ∨ marked = true) then .error .emptyHost
  return (⟨user, password, host, if port = defaultPort? scheme then none else port⟩, rest)

/-! ## Addresses -/

/-- An address with a host, behind the slashes. -/
def readWithHost (scheme : String) (cs : List Char) : Except Fault Url := do
  let family := familyOf scheme
  let (a, rest) ← readAuthority scheme cs
  let path := rest.takeWhile fun c => !isTailMark c
  let tail := readTail family (rest.dropWhile fun c => !isTailMark c)
  return ⟨scheme, a.user, a.password, some a.host, a.port, .segments (readPath family path),
    tail.query, tail.fragment⟩

/-- An address without a host, whose scheme is none of the common ones. -/
def readWithoutHost (scheme : String) (cs : List Char) : Url :=
  let text := cs.takeWhile fun c => !isTailMark c
  let tail := readTail .other (cs.dropWhile fun c => !isTailMark c)
  let path : Path :=
    match text with
    | '/' :: rest => .segments (segmentsOf .other [] rest)
    | _ => .rootless (percentEncode [] text)
  ⟨scheme, "", none, none, none, path, tail.query, tail.fragment⟩

/-- The host of a file behind two slashes, and the segments that count as read before its
path.  None is meant by the local machine's name, and the letter of a drive is no host.
Where there is none, its end counts as an empty segment, so that the letter of a drive
behind it is not the first. -/
def readFileHost (cs : List Char) : Except Fault (Host × List String × List Char) := do
  let front := cs.takeWhile fun c => !endsAuthority true c
  let behind := cs.dropWhile fun c => !endsAuthority true c
  if isDriveLetter (String.ofList front) then return (.name "", [], cs)
  let host ← if front = [] then .ok (.name "") else readHost front
  if host = .name "" ∨ host = .name "localhost" then
    return (.name "", if behind.head?.any (isSlash true) then [""] else [], behind)
  return (host, [], behind)

/-- Empty segments at the start of a file's path are dropped, up to the last. -/
def fileSegments (ss : List String) : List String :=
  match ss.dropWhile (·.isEmpty) with
  | [] => [""]
  | ss => ss

def readFile (cs : List Char) : Except Fault Url := do
  let (host, before, rest) ←
    match cs with
    | c :: d :: rest =>
      if isSlash true c && isSlash true d then readFileHost rest else .ok (.name "", [], cs)
    | _ => .ok (.name "", [], cs)
  let text := rest.takeWhile fun c => !isTailMark c
  let tail := readTail .file (rest.dropWhile fun c => !isTailMark c)
  let ss := segmentsOf .file before (behindSlash .file text)
  let host := if ss.head?.any isNormalDriveLetter then .name "" else host
  return ⟨"file", "", none, some host, none, .segments (fileSegments ss), tail.query, tail.fragment⟩

def isControlOrSpace (c : Char) : Bool := c.toNat ≤ 0x20

def isTabOrLineEnd (c : Char) : Bool := c == '\t' || c == '\n' || c == '\r'

/-- The address that a text writes. -/
def ofText (text : String) : Except Fault Url :=
  let cs := (Text.trimBoth isControlOrSpace text.toList).filter fun c => !isTabOrLineEnd c
  match splitScheme cs with
  | none => .error .relative
  | some (scheme, rest) =>
    match familyOf scheme with
    | .file => readFile rest
    | .common => readWithHost scheme (rest.dropWhile (isSlash true))
    | .other =>
      match rest with
      | '/' :: '/' :: rest => readWithHost scheme rest
      | _ => .ok (readWithoutHost scheme rest)

end Backchannel.Url
