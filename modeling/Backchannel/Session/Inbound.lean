/-
# Backchannel.Session.Inbound -- what the daemon says

The daemon writes lines.  `Notice.ofLine` reads one: it is a request of the daemon,
a response, a response that cannot be read though it names its request, or nothing
of use.  `Session.heed` acts on it.  Bad input never closes the session; at most it
fails the one request that it names.

Bytes come in any pieces.  `Session.readByte` gathers them into lines, so only the
whole sequence of bytes matters and not how it was cut.
-/
import Backchannel.Session.Basic
import Backchannel.Text.Blank
import Backchannel.Text.Lines

namespace Backchannel

set_option autoImplicit false

open Backchannel.Json (Value Mismatch)
open Backchannel.Text.Utf8 (Bytes)

/-- What a line of the daemon comes to. -/
inductive Notice where
  | nothing
  | request (frame : InboundFrame)
  | response (r : Response)
  /-- A response to that request that cannot be read. -/
  | malformed (id : RequestId) (how : Mismatch)
  deriving DecidableEq

namespace Notice

/-- The id of the request that a response names, where the rest may be unreadable. -/
def namedId? (data : Value) : Option RequestId :=
  (data.member? "backwards_request_id").bind Value.text?

def ofResponseData (data : Value) : Notice :=
  match Response.decoder.ofValue data with
  | .ok r => .response r
  | .error how =>
    match namedId? data with
    | some id => .malformed id how
    | none => .nothing

def ofFrame (f : InboundFrame) : Notice :=
  match f.event with
  | .response => ofResponseData f.data
  | .request => .request f
  | .unknown => .nothing

def isLineEnd (c : Char) : Bool := c == '\r' || c == '\n'

def ofText (line : List Char) : Notice :=
  let line := Text.trimRight isLineEnd line
  if line.all Text.isBlank then .nothing
  else
    match InboundFrame.decoder.parse (String.ofList line) with
    | .ok f => ofFrame f
    | .error _ => .nothing

/-- What a line of bytes comes to; one that is not text comes to nothing. -/
def ofLine (line : Bytes) : Notice :=
  match Text.Utf8.decode line with
  | .ok cs => ofText cs
  | .error _ => .nothing

end Notice

namespace Session

/-- Acts on a notice. -/
def heed (n : Notice) (s : Session) : Session :=
  match n with
  | .nothing => s
  | .request f => if s.listening then { s with inbound := s.inbound ++ [f] } else s
  | .response r => (s.route r).2
  | .malformed id how => s.fail id (.protocol (.malformedResponse how))

/-- Acts on one line, with or without the line feed that ends it. -/
def readLine (line : Bytes) (s : Session) : Session := s.heed (Notice.ofLine line)

/-- Takes one byte of the daemon.  A line feed completes a line. -/
def readByte (s : Session) (b : UInt8) : Session :=
  if s.reading then
    if b = Text.lineFeed then { s with unread := [] }.readLine (b :: s.unread).reverse
    else { s with unread := b :: s.unread }
  else s

/-- Takes a piece of what the daemon writes. -/
def readBytes (bytes : Bytes) (s : Session) : Session := bytes.foldl readByte s

/-- At the end of the stream, what is left of a line is read as a line. -/
def readTail (s : Session) : Session :=
  if s.reading && !s.unread.isEmpty then { s with unread := [] }.readLine s.unread.reverse else s

/-- The reader stops, and closes the session. -/
def stopInput (reason : CloseReason) (s : Session) : Session :=
  if s.reading then { s.shutDown reason with reading := false } else s

/-- The daemon hangs up. -/
def endInput (s : Session) : Session := s.readTail.stopInput .endOfStream

/-- What the daemon writes can no longer be read. -/
def failInput (why : String) (s : Session) : Session := s.stopInput (.readFailed why)

/-- The daemon takes no more of what the plugin writes. -/
def endOutput (s : Session) : Session := { s with accepting := false }

end Session

end Backchannel
