/-
# Backchannel.Url.Domain.Joiner -- where joiners may stand

The zero-width joiner and non-joiner tell how the characters around them are drawn
and leave no mark of their own.  In names they may stand only where they make a
difference: behind a sign that silences a vowel, or, the non-joiner, between letters
that would join.
-/
import Backchannel.Text.Marks

namespace Backchannel.Url.Domain

set_option autoImplicit false

/-- With which neighbours a letter joins. -/
inductive Joining where
  | none
  /-- Passed over, as marks are. -/
  | through
  | after
  | before
  | both
  deriving DecidableEq, Repr

/-- Rows of a gap, a length and a joining; what is in no row does not join. -/
def joiningRows : List Nat := Text.hexNumbers "
300 70 1 113 7 1 107 2d 1 1 1 1 1 2 1 1 2 1 1 1 1 48 b 1 5 1 4 1 4 3 0 1 4 0 1 3 0 1 4 0 1 3 0 5 4
0 4 3 0 d 4 0 1 5 0 7 4 0 1 3 0 2 4 0 15 1 e 2 4 0 1 1 0 3 3 5 f 4 0 12 3 0 26 4 0 1 3 0 2 4 0 9 3
0 1 4 0 1 3 0 1 4 0 1 3 0 2 4 0 2 3 1 1 3 0 7 1 2 6 1 2 2 1 1 4 1 0 2 3 a 3 4 2 1 4 10 1 3 0 1 1 0
3 4 0 5 3 0 4 4 0 1 3 0 9 4 0 1 3 0 1 4 0 1 3 0 1 4 0 1 3 0 2 4 0 1 3 0 1b 1 2 1 3 0 b 4 0 3 3 0 f
4 0 2 3 0 4 4 0 1 3 0 1 4 0 2 3 0 3 4 0 2 3 0 6 4 26 b 1 19 21 4 0 9 1 6 1 5 2 1 1 18 4 1 1 9 1 1
3 1 1 5 1 12 1 3 0 5 4 0 2 3 0 1 4 0 1 3 0 a 4 0 1 3 0 1 4 0 3 3 0 3 1 4 1 4 1 4 4 1 1 3 0 1 4 0
1a 3 0 3 5 0 1 4 2 5 4 0 1 3 0 1 4 7 9 1 0 a 4 0 3 3 1 1 3 0 2 4 0 2 3 0 6 4 0 1 3 0 f 4 1 39 1 37
1 1 1 1 1 4 8 1 4 1 1 3 7 1 a 2 1 1d 1 1 3a 1 1 4 4 1 8 1 1 14 2 1 1a 5 1 39 1 1 4 11 1 1e 2 1 3 1
1 b 2 1 39 1 1 4 8 1 4 1 1 14 2 1 16 8 1 3a 1 1 2 1 1 1 4 1 8 a 1 b 2 1 1e 1 1 3d 1 1 c 1 1 32 1 1
3 1 1 37 1 1 1 3 1 5 11 1 b 2 1 1d 1 1 3a 1 1 2 1 1 6 1 1 5 2 1 14 2 1 1c 2 1 39 2 1 4 4 1 8 1 1
14 2 1 1d 1 1 48 1 1 7 5 1 5a 1 1 2 7 1 c 8 1 62 1 1 2 9 1 b 7 1 49 2 1 1b 1 1 1 1 1 1 1 1 37 e 1
1 5 1 1 2 1 5 30 1 9 1 1 66 4 1 1 6 1 1 2 1 2 2 1 19 2 1 4 3 1 10 4 1 d 1 1 2 2 1 6 1 1 f 1 1 2bf
3 1 3b2 3 1 1d 2 1 1e 2 1 1e 2 1 43 7 1 8 1 1 2 b 1 9 1 1 29 1 4 2 1 5 15 59 4 c 2 1 0 22 4 0 1 1
0 1 4 75 3 1 4 2 1 9 1 1 6 3 1 db 2 1 2 1 1 3a 1 1 1 9 1 1 1 1 2 8 1 6 d 1 30 54 1 30 1 1 1 4 1 2
1 1 5 1 1 28 9 1 c 2 1 20 4 1 2 2 1 1 3 1 38 1 1 1 2 1 3 1 1 1 3 1 3a 8 1 2 2 1 98 3 1 1 d 1 1 7 1
4 1 1 6 1 1 3 2 1 c6 40 1 20d 1 5 c2 21 1 bfe 3 1 8d 1 1 60 20 1 22a 4 1 6b 2 1 75d4 4 1 1 a 1 20
2 1 50 2 1 110 1 1 3 1 1 4 1 1 19 2 1 5 1 1 13 32 4 0 1 2 51 2 1 1a 12 1 d 1 1 26 8 1 19 b 1 2e 3
1 30 1 1 2 4 1 2 2 1 27 1 1 43 6 1 2 2 1 2 2 1 c 1 1 8 1 1 2f 1 1 33 1 1 1 3 1 2 2 1 5 2 1 1 1 1
2a 2 1 8 1 1 ee 1 1 2 1 1 4 1 1 4f30 1 1 301 10 1 3cd 1 1 e2 1 1 95 5 1 686 f 1 28 8 1 80 5 4 0 1
3 1 1 3 1 2 3 2 1 2 0 5 3 0 4 4 0 1 2 0 5 4 0 1 3 0 3 4 0 1 3 2 1 3 0 2 1 4 4 4 0 1 3 90 1 4 0 1 3
0 1 4 0 3 3 0 3 4 0 1 3 0 2 4 0 1 3 0 1 4 0 2 3 0 1 4 0 1 3 17 4 3 0 2 4 151 1 2 0 21 4 0 1 3 0 1
4 0 4 1 41 5 1 13d 2 1 15 1 3 0 2 4 1 2 4 32 6 1 30 3 4 0 1 3 0 11 4 1 b 1 0 3 4 0 1 3 1b 4 4 0 2
3 0 c 4 0 4 1 2a 1 4 1 2 4 0 3 3 1 1 4 0 2 3 0 2 4 0 1 3 0 2 4 1 1 4 0 2 3 0 1 4 4 1 3 0 1 4 0 1 2
35 1 1 36 f 1 29 1 1 2 2 1 a 3 1 31 4 1 2 2 1 7 1 1 3d 3 1 24 5 1 1 8 1 3e 1 1 c 2 1 34 9 1 a 4 1
2 1 1 5f 3 1 2 1 1 1 2 1 6 1 1 2 1 1 9d 1 1 3 8 1 15 2 1 39 2 1 3 1 1 25 f 1 43 1 1 2 f 1 4 3 1 1
1 1 e 2 1 55 8 1 2 3 1 1 1 1 17 1 1 54 6 1 1 1 1 4 2 1 1 2 1 ee 4 1 6 2 1 1 2 1 1b 2 1 55 8 1 2 1
1 1 2 1 6a 1 1 1 1 1 2 6 1 1 1 1 65 1 1 1 1 1 2 4 1 1 5 1 103 9 1 1 2 1 100 2 1 1 1 1 4 1 1 90 8 1
4 1 1 20 a 1 28 6 1 2 4 1 8 1 1 9 6 1 2 3 1 2e d 1 1 2 1 c6 1 1 1 3 1 1 1 1 c9 e 1 1 1 1 52 16 1 2
7 1 1 2 1 1 2 1 7a 15 1 1 1 1 48 2 1 3 1 1 1 1 1 15b 2 1 b 2 1 34 5 1 5 1 1 1 1 1 17 1 1 14e5 1 1
6 f 1 2cc8 c 1 3 3 1 9c0 5 1 3b 7 1 418 1 1 3f 4 1 51 1 1 4cb8 2 1 1261 47 1 220 3 1 11 8 1 2 7 1
1e 4 1 94 3 1 7bb 37 1 4 32 1 8 1 1 e 1 1 16 15 1 550 90 1 a0 7 1 177 1 1 3d 4 1 1fc 4 1 fe 2 1 f3
1 1 2 1 1 7 2 1 5 1 1 1da 7 1 4b 22 4 0 8 1"

def joiningOf (c : Char) : Joining :=
  match Text.valueIn joiningRows c.toNat with
  | 1 => .through
  | 2 => .after
  | 3 => .before
  | 4 => .both
  | _ => .none

/-- The joining of the first character that is not passed over. -/
def nearest (cs : List Char) : Joining :=
  (((cs.map joiningOf).filter (· ≠ .through)).head?).getD .none

/-- The combining class of signs that silence a vowel. -/
def silencing : Nat := 9

/-- Every joiner stands where it may; `back` is what stands before, the nearest first. -/
def joinersFit (back : List Char) : List Char → Bool
  | [] => true
  | c :: rest =>
    let behindSilencer := back.head?.any fun b => Text.combiningClass b == silencing
    let fits :=
      if c.toNat = 0x200C then
        behindSilencer ||
          ([.after, .both].contains (nearest back) && [.before, .both].contains (nearest rest))
      else if c.toNat = 0x200D then behindSilencer
      else true
    fits && joinersFit (c :: back) rest

end Backchannel.Url.Domain
