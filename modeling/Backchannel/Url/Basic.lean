/-
# Backchannel.Url.Basic -- addresses and their text

An address has a scheme and a path.  It may have a host, with a user and a port, a
query and a fragment.  Texts in it are kept percent-encoded, ready to be written.

The path is a list of segments, each written behind a slash; an address without a
host may have a text without segments instead.
-/
import Backchannel.Text.Hex

namespace Backchannel

set_option autoImplicit false

open Backchannel.Text.Utf8 (Bytes)

namespace Url

inductive Host where
  /-- A name, or nothing. -/
  | name (text : String)
  /-- Four bytes as one number. -/
  | four (address : Nat)
  /-- Eight pieces of two bytes. -/
  | six (pieces : List Nat)
  deriving DecidableEq, Repr

inductive Path where
  | segments (ss : List String)
  /-- The path of an address such as `mailto:someone`. -/
  | rootless (text : String)
  deriving DecidableEq, Repr

/-- Why a text is no address. -/
inductive Fault where
  | emptyHost
  | badDomain
  | badPort
  | badFour
  | badSix
  | badHostCharacter
  /-- The text has no scheme. -/
  | relative
  deriving DecidableEq, Repr

def Fault.message : Fault → String
  | .emptyHost => "empty host"
  | .badDomain => "invalid international domain name"
  | .badPort => "invalid port number"
  | .badFour => "invalid IPv4 address"
  | .badSix => "invalid IPv6 address"
  | .badHostCharacter => "invalid domain character"
  | .relative => "relative URL without a base"

end Url

structure Url where
  scheme : String
  user : String
  /-- What stands behind the user's colon. -/
  password : Option String
  host : Option Url.Host
  port : Option Nat
  path : Url.Path
  query : Option String
  fragment : Option String
  deriving DecidableEq, Repr

namespace Url

/-! ## Percent-encoding -/

/-- A byte as a percent sign and two digits. -/
def percentByte (b : UInt8) : List Char :=
  let digit (n : Nat) : Char := (Nat.digitChar n).toUpper
  ['%', digit (b.toNat / 16), digit (b.toNat % 16)]

/-- Encodes controls, characters beyond ASCII, and those among `more`. -/
def percentEncode (more : List Char) (cs : List Char) : String :=
  String.ofList <| cs.flatMap fun c =>
    if c.toNat < 0x20 || 0x7E < c.toNat || more.contains c then
      (String.utf8EncodeChar c).flatMap percentByte
    else [c]

def fragmentMarks : List Char := [' ', '"', '<', '>', '`']

def queryMarks : List Char := [' ', '"', '#', '<', '>']

/-- A single quote is encoded in the queries of some schemes. -/
def specialQueryMarks : List Char := '\'' :: queryMarks

def pathMarks : List Char := fragmentMarks ++ ['#', '?', '\x7b', '\x7d']

def userMarks : List Char := pathMarks ++ ['/', ':', ';', '=', '@', '[', '\\', ']', '^', '|']

/-- Decodes each percent sign that two hexadecimal digits follow. -/
def percentDecode : Bytes → Bytes
  | 0x25 :: a :: b :: rest =>
    match Text.Hex.digitValue? a, Text.Hex.digitValue? b with
    | some x, some y => UInt8.ofNat (16 * x + y) :: percentDecode rest
    | _, _ => 0x25 :: percentDecode (a :: b :: rest)
  | b :: rest => b :: percentDecode rest
  | [] => []
  termination_by bytes => bytes.length

/-! ## Writing -/

/-- The longest run of zeros, the first of several, as its start and its length; only
runs of two or more count. -/
def zeroRun (pieces : List Nat) : Option (Nat × Nat) :=
  let runAt (i : Nat) : Nat := ((pieces.drop i).takeWhile (· == 0)).length
  let longest := ((List.range pieces.length).map runAt).foldl max 0
  if longest < 2 then none
  else ((List.range pieces.length).find? fun i => runAt i == longest).map fun i => (i, longest)

def writePieces (pieces : List Nat) : String :=
  String.intercalate ":" (pieces.map fun p => String.ofList (Nat.toDigits 16 p))

def Host.write : Host → String
  | .name text => text
  | .four address =>
    String.intercalate "." ([16777216, 65536, 256, 1].map fun unit =>
      toString (address / unit % 256))
  | .six pieces =>
    let inner :=
      match zeroRun pieces with
      | none => writePieces pieces
      | some (start, length) =>
        writePieces (pieces.take start) ++ "::" ++ writePieces (pieces.drop (start + length))
    "[" ++ inner ++ "]"

def Path.write : Path → String
  | .segments ss => String.join (ss.map ("/" ++ ·))
  | .rootless text => text

/-- The user and the password with the mark behind them. -/
def userPart (u : Url) : String :=
  match u.password with
  | some password => u.user ++ ":" ++ password ++ "@"
  | none => if u.user.isEmpty then "" else u.user ++ "@"

/-- What stands between the scheme and the path.  A path that starts with two slashes
needs a mark there, lest it be read as a host. -/
def authority (u : Url) : String :=
  match u.host with
  | some host =>
    let port := match u.port with
      | some n => ":" ++ toString n
      | none => ""
    "//" ++ u.userPart ++ host.write ++ port
  | none => if u.path.write.startsWith "//" then "/." else ""

def write (u : Url) : String :=
  let behind (mark : String) : Option String → String
    | some text => mark ++ text
    | none => ""
  u.scheme ++ ":" ++ u.authority ++ u.path.write ++ behind "?" u.query ++ behind "#" u.fragment

/-- There is a host to connect to. -/
def hasHost (u : Url) : Bool :=
  match u.host with
  | none | some (.name "") => false
  | some _ => true

end Url

end Backchannel
