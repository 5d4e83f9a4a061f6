/-
# Backchannel.Text.Marks -- marks on characters

A mark combines with the character before it.  The combining class of a mark says
where it attaches: marks of different classes may change places without a change
of meaning, marks of one class may not.  Class zero is that of all other characters.
-/
import Backchannel.Text.Runs

namespace Backchannel.Text

set_option autoImplicit false

/-- The marks: lengths of gaps and stretches in turn. -/
def markTurns : List Nat := hexNumbers "
300 71 112 8 106 2d 1 1 1 2 1 2 1 9 40 b 30 15 10 1 65 8 1 6 2 2 1 4 23 1 1e 1d 59 b 3a 9 9 1 18 4
1 9 1 3 1 7 29 5 39 9 2a 3a 36 3 1 12 1 f 2 2 1d 4 37 1 1 10 9 9 2 4 18 7 37 20 14 2 3 1 b 4 37 1
1 12 12 4 14 b 37 1 1 21 3 4 1c 1 3b 12 7 f 1a 5 37 1 1 1a a 4 1b 3 38 1 1 1e 6 4 d 11 37 2 1 10 9
1 a 4 1b 4 45 1c c 2 3d 1 2 b 8 8 62 1 2 9 b 8 48 2 1b 1 1 1 1 1 4 2 31 14 1 2 5 31 8 1 64 14 17 4
4 3 1 3 2 7 3 4 d c 1 1 a 4 2bf 3 3b2 d 13 3 1d e 12 e 36 1e 9 3 a5 2 22 1 76 20 d7 7 37 2b 30 55
2f 11 26 9 c 3 1e d 38 16 28 17 95 3 1 15 4 1 6 1 2 3 c6 41 2cf 34 beb 4 8c 1 60 20 22a 6 69 4
75d2 4 1 a 20 2 50 2 110 1 3 1 4 1 17 5 4 4 50 2 32 1a 12 12 d 1 26 8 19 18 21 4 2f e 24 1 43 17 3
1 8 4 2b 3 32 1 1 3 2 2 5 2 1 1 29 5 5 c e2 8 1 4 4f2e 94 26e 25 3b8 83 60 1 95 a 681 f 28 8 a5 6
239 c 39 5 13d 2 4d 6 46 b 31 4 7a 3 35 f 29 1 2 2 a 4 2d b 7 e 30 3 24 f f 2 2c 1 c 3 30 e 8 4 1
2 5c c 6 1 2 3f 5f 11 10 5 36 2 1 12 7 6 5 1e 38 19 1 1 e 1f 35 12 17 1 51 14 eb 12 1b 24 30 11 6a
d 65 13 fc f f5 f 1 1 1 2 8d 10 3 1c 1 a 28 7 1 4 8 9 1 b 2e 10 c6 60 6f 11 52 6e 31 15 1 9 3a e
15b 4 9 2 1 1 30 f 17 56 1490 1 6 19 2cbe 12 9c0 5 3b 7 418 1 1 42 51 e 4cab 2 1261 50 215 5 3 16
2 7 1e 4 94 3 7bb 37 4 32 8 1 e 1 16 465 100 100 30 7 177 12 2c 4 1fc 4 fe 2 f3 1 2 1 7 2 5 9 1d2
52 22 7"

/-- The combining classes: rows of a gap, a length and a class. -/
def classRows : List Nat := hexNumbers "
300 15 e6 0 1 e8 0 4 dc 0 1 e8 0 1 d8 0 5 dc 0 2 ca 0 4 dc 0 2 ca 0 b dc 0 5 1 0 4 dc 0 a e6 0 3
dc 0 3 e6 0 2 dc 1 3 e6 0 4 dc 0 1 e6 0 1 e8 0 2 dc 0 1 e6 0 1 e9 0 2 ea 0 1 e9 0 2 ea 0 1 e9 0 d
e6 113 5 e6 109 1 dc 0 4 e6 0 1 dc 0 3 e6 0 1 de 0 1 dc 0 6 e6 0 6 dc 0 2 e6 0 1 dc 0 2 e6 0 1 de
0 1 e4 0 1 e6 0 1 a 0 1 b 0 1 c 0 1 d 0 1 e 0 1 f 0 1 10 0 1 11 0 1 12 0 2 13 0 1 14 0 1 15 0 1 16
1 1 17 1 1 18 0 1 19 1 1 e6 0 1 dc 1 1 12 48 8 e6 0 1 1e 0 1 1f 0 1 20 30 1 1b 0 1 1c 0 1 1d 0 1
1e 0 1 1f 0 1 20 0 1 21 0 1 22 0 2 e6 0 2 dc 0 5 e6 0 1 dc 0 2 e6 0 1 dc 10 1 23 65 7 e6 2 4 e6 0
1 dc 0 1 e6 2 2 e6 1 1 dc 0 2 e6 0 1 dc 23 1 24 1e 1 e6 0 1 dc 0 2 e6 0 1 dc 0 2 e6 0 3 dc 0 1 e6
0 2 dc 0 1 e6 0 1 dc 0 3 e6 0 1 dc 0 1 e6 0 1 dc 0 1 e6 0 1 dc 0 1 e6 0 1 dc 0 2 e6 a0 7 e6 0 1 dc
0 1 e6 9 1 dc 18 4 e6 1 9 e6 1 3 e6 1 5 e6 2b 3 dc 3b 2 e6 0 3 dc 0 4 e6 2a 5 e6 0 5 dc 0 e e6 1 1
dc 0 2 e6 0 1 dc 0 2 e6 0 1 dc 0 3 e6 0 3 dc 0 1 1b 0 1 1c 0 1 1d 0 3 e6 0 1 dc 0 2 e6 0 2 dc 0 5
e6 3c 1 7 10 1 9 3 1 e6 0 1 dc 0 2 e6 67 1 7 10 1 9 30 1 e6 3d 1 7 10 1 9 6e 1 7 10 1 9 6e 1 7 10
1 9 7f 1 9 6e 1 7 10 1 9 7 1 54 0 1 5b 65 1 7 10 1 9 6d 2 9 10 1 9 7c 1 9 6d 2 67 0 1 9 d 4 6b 6c
2 76 0 1 9 d 4 7a 4c 2 dc 1b 1 dc 1 1 dc 1 1 d8 37 1 81 0 1 82 1 1 84 5 4 82 2 1 82 1 2 e6 0 1 9 1
2 e6 3e 1 dc 70 1 7 1 2 9 52 1 dc 2cf 3 e6 3b4 2 9 1e 1 9 9d 1 9 a 1 e6 cb 1 e4 8f 1 de 0 1 e6 0 1
dc db 1 e6 0 1 dc 47 1 9 14 8 e6 2 1 dc 30 5 e6 0 6 dc 0 2 e6 0 1 dc 1 2 dc 0 2 e6 0 2 dc 0 5 e6 0
1 dc 0 12 e6 0 1 dc 0 8 e6 0 1 dc 0 4 e6 0 1 ea 0 14 e6 34 1 7 f 1 9 26 1 e6 0 1 dc 0 7 e6 36 2 9
3a 1 7 b 2 9 43 1 7 98 3 e6 1 1 1 0 5 dc 0 2 e6 0 4 dc 0 1 e6 1 7 1 4 1 dc 6 1 e6 3 2 e6 c6 2 e6 0
1 dc 0 7 e6 0 1 dc 0 2 e6 0 1 ea 0 1 d6 0 1 dc 0 1 ca 0 25 e6 0 1 e8 0 2 e4 0 1 dc 0 1 da 0 1 e6 0
1 e9 0 1 dc 0 1 e6 0 1 dc 2d0 2 e6 0 2 1 0 4 e6 0 3 1 0 2 e6 4 1 e6 3 2 1 0 1 e6 0 1 dc 0 1 e6 0 2
1 0 4 dc 0 1 e6 bfe 3 e6 8d 1 9 60 20 e6 22a 1 da 0 1 e4 0 1 e8 0 1 de 0 2 e0 69 2 8 75d4 1 e6 4 a
e6 20 2 e6 50 2 e6 114 1 9 25 1 9 97 1 9 1b 12 e6 39 3 dc 25 1 9 5f 1 7 c 1 9 ef 1 e6 1 2 e6 0 1
dc 2 2 e6 5 2 e6 1 1 e6 34 1 9 f6 1 9 4f30 1 1a 301 7 e6 0 7 dc 0 2 e6 3cd 1 dc e2 1 dc 95 5 e6
692 1 dc 1 1 e6 28 1 e6 0 1 1 0 1 dc 4 1 9 a5 1 e6 0 1 dc 23d 4 e6 41 5 e6 13d 2 e6 4d 2 dc 1 3 dc
46 2 dc 0 3 e6 0 1 dc 0 1 e6 0 4 dc 31 1 e6 0 1 dc 0 1 e6 0 1 dc c0 1 9 29 1 9 e 1 9 39 1 9 0 1 7
45 3 e6 30 2 9 3e 1 7 4c 1 9 9 1 7 6a 1 9 0 1 7 b2 1 7 0 1 9 50 2 7 10 1 9 18 f e6 59 3 9 10 2 e6
5f 1 9 3 1 7 17 1 e6 63 1 9 0 1 7 fb 1 9 0 1 7 7e 1 9 76 1 9 0 1 7 73 1 9 10d 1 9 0 1 7 102 2 9 4
1 7 9c 1 9 53 1 9 12 1 9 51 1 9 1a5 1 9 102 1 7 1 2 9 51 1 9 1a9 2 9 41ec 1 9 9c0 5 1 3b 7 e6 4b9
2 6 4cac 1 1 14c6 2 d8 0 3 1 3 1 e2 0 5 d8 8 8 dc 2 5 e6 0 2 dc 1e 4 e6 94 3 e6 dbb 90 e6 a0 7 e6
177 1 e6 3d 4 e6 1fc 2 e8 0 1 dc 0 1 e6 fe 1 e6 0 1 dc f3 1 e6 2 1 e6 7 2 e6 5 1 e6 1da 7 dc 6d 6
e6 0 1 7"

def isMark (c : Char) : Bool := inTurns false markTurns c.toNat

def combiningClass (c : Char) : Nat := valueIn classRows c.toNat

end Backchannel.Text
