/-
# Backchannel.Url.Domain -- names of hosts in ASCII

A name is a list of labels with dots between them.  It may be written in any script:
its characters are replaced by those they stand for and composed, and labels that
are not ASCII then are written in Punycode behind `xn--`.  A label that is already
written so is read, so that it is held to the same rules.
-/
import Backchannel.Text.Composed
import Backchannel.Url.Domain.Direction
import Backchannel.Url.Domain.Joiner
import Backchannel.Url.Domain.Mapping
import Backchannel.Url.Domain.Punycode

namespace Backchannel.Url.Domain

set_option autoImplicit false

/-- The ASCII characters that no name of a host may hold. -/
def isForbidden (c : Char) : Bool :=
  c.toNat ≤ 0x20 || c.toNat == 0x7F || "%#/:<>?@[\\]^|".toList.contains c

def isAscii (label : List Char) : Bool := label.all (·.toNat < 0x80)

def encodedMark : List Char := ['x', 'n', '-', '-']

/-- The longest text in Punycode that is read. -/
def longestText : Nat := 2000

/-- The longest label that is written in Punycode. -/
def longestLabel : Nat := 1000

/-- The label that was written, in its own script. -/
def readLabel? (written : List Char) : Option (List Char) :=
  if encodedMark.isPrefixOf written then
    if (written.drop 4).length ≤ longestText then
      (Punycode.decode? (written.drop 4)).filter (!isAscii ·)
    else none
  else if isAscii written || written.length ≤ longestLabel then some written
  else none

/-- The label is in the one spelling that it has, and each mark and joiner is in its place. -/
def isSound (label : List Char) : Bool :=
  label.all (fun c => isPlain c && !isForbidden c && c != '.') &&
    Text.compose label == label &&
    !label.head?.any Text.isMark &&
    joinersFit [] label

def writeLabel (label : List Char) : List Char :=
  if isAscii label then label else encodedMark ++ Punycode.encode label

/-- The name in lower-case ASCII. -/
def toAscii? (name : List Char) : Option (List Char) := do
  let characters ← name.mapM mapped?
  let labels ← ((Text.compose characters.flatten).splitOn '.').mapM readLabel?
  if labels.all isSound && (!labels.any goesLeft || labels.all hasOneDirection) then
    some (['.'].intercalate (labels.map writeLabel))
  else none

end Backchannel.Url.Domain
