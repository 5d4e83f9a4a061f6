/-
# Backchannel.Text.Lines -- bytes cut into lines

A line ends with a line feed, which belongs to it.  What follows the last line feed
is a line as well, unless it is empty.
-/
import Backchannel.Text.Utf8

namespace Backchannel.Text

set_option autoImplicit false

open Backchannel.Text.Utf8 (Bytes)

def lineFeed : UInt8 := 10

/-- Puts a byte in front of some lines. -/
def addToLines (b : UInt8) (lines : List Bytes) : List Bytes :=
  if b = lineFeed then [b] :: lines
  else
    match lines with
    | [] => [[b]]
    | line :: rest => (b :: line) :: rest

/-- The lines of some bytes. -/
def splitLines (bytes : Bytes) : List Bytes := bytes.foldr addToLines []

/-- Cutting bytes into lines loses nothing. -/
theorem splitLines_flatten (bytes : Bytes) : (splitLines bytes).flatten = bytes := by
  induction bytes with
  | nil => rfl
  | cons b rest ih =>
    simp only [splitLines, List.foldr_cons] at ih ⊢
    generalize List.foldr addToLines [] rest = lines at ih
    unfold addToLines
    split
    · simp [ih]
    · cases lines <;> simp_all

end Backchannel.Text
