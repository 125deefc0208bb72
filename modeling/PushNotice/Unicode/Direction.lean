import PushNotice.Unicode.CharSet

/-!
# PushNotice.Unicode.Direction

**Directions of writing.** The class of a character says whether it is written from left to right,
from right to left, or goes along with those around it.
-/

namespace PushNotice.Unicode

/-- What a character does to the direction of writing. -/
inductive Direction where
  /-- A letter written from left to right. -/
  | left
  /-- A letter written from right to left. -/
  | right
  /-- A letter of Arabic and the scripts like it. -/
  | arabic
  | arabicNumber
  | europeanNumber
  /-- A plus or minus sign. -/
  | separator
  /-- A comma, colon, dot or slash. -/
  | commonSeparator
  /-- A sign that goes with a number: a currency, a percent sign. -/
  | terminator
  | neutral
  | boundary
  /-- A mark, which goes with the character before it. -/
  | mark
deriving DecidableEq, Repr

/-- The characters of each class but the first, in the form that `CharSet.ofTable` reads. -/
def directionTables : List (Direction × String) := [
  (.right,
    "590 2e 2 3 3 2+37 1c1+2a a+1 5+2 2+17 5 a 4 6+2a 4+3 17b0 db0e 2+9 2+25 cb1+11e 2+e0 4 3+4
    5+27 4+3 2+a4 3+51 8+1bf 41+11f 20+2b 3+12 41+2f 41+11 5+79 d801+cf 8+6c 8+324 51+3f 51+af
    101+ff"),
  (.arabic,
    "608 3 2 e+2f 23+2 2+64 10+1 8+1 b+16 2+1d 1c+5a c+e a1+2f 3+5 9+29 f287+1ed 13+7e 22+c
    74+8e e02+23 5+7 b+5 181+3c 34+15 c+1e dd01+4f 41+4f b1+ef 3+d"),
  (.arabicNumber,
    "600+5 5b+9 2+1 71 1b3+1 51 1044e+9 127+1e"),
  (.europeanNumber,
    "30+9 79+1 6 637+9 1977 4+5 7+9 3ff+13 da75+9 3c8+1a d4d3+31 1901+a ae6+9"),
  (.separator,
    "2b 2 204d+1 f+1 187 d917 339+1 a8 2"),
  (.commonSeparator,
    "2c 2+1 b 66 56c 1a23 15 de0c 2 3 b7 2+1 b"),
  (.terminator,
    "23+2 7d+3 b+1 4de 7a+1 60 388+1 8 f6 108 246 99c 855+4 6c+2f 5f e5 8625+1 5626 a+1 99+2
    db+1 4+1 1ff7+3 c31f"),
  (.neutral,
    "21+1 4+4 11+5 1b+5 1b+3 23 5+3 2+1 2+1 5 2+2 3+4 18 20 1c2+1 8+d 3+d 6+8 2+10 75+1 9 6+1 2
    6f 194 3+1 78+1 7+1 cf b 10d+3 3fa+5 2 7e+6 2bc+3 453+9 67 29b+1 154+9 7+a 136 4+1 99+21 5be
    2+2 c+2 e+2 e+2 e+1 12+17 e+e 2+19 1e+2 e+2 72+1 2+3 2+1 b 2+2 6+5 2 2 2 11+1 5+4 6+3 3+f
    2a+2 5+81 3+121 46+19 2+90 1a+a 16+27 63+1c1 2+152 101+273 3+1f 2+68 e6+5 f+6 101+5d 23+19
    2+58 d+d5 1b+b 6+3 4+18 10 6+1 6+2 5c+1 4 5b c5+23 3a+1 32+f 1d+2 33+e d+3 a8+3 64+1 20
    19c1+3f 5691+36 147+2 64 b+1 81+21 67 a0+3 49+3 2f3+1 51d3+11 80 2e+2 11+9 17+1f 2 3 2+8 2+1
    3+2 2 3 96+1 4+4 11+5 1b+5 1b+a 7d+2 4+6 b+4 104 3f+4c 4+c 4 77f 21a+6 513+13 5fb+c 969+7
    5+10 4ff1 6207+1 16+41 4 bb+56 385 3a 3a 3a 3a 172d+1 10f+2b 5+63 d+e 3+e 2+e 2+24 16+4 20
    3b+5 3e b3+5 9b+3d7 5+10 4+c 4+76 5+5e 7+b 5 10+b 5+37 9+9 7+27 9+1d 3+1 4f+153 d+d 3+c 4+8
    8+2d 2+6 9+d 5+8 8+8 8+92 2+36"),
  (.boundary,
    "0+8 6+d 64+5 2+19 e 1761 7fd+2 53+5 5+5 dd61+1f 110 f1+8 6+1 bca1+3 14d0+7 2e84+1 ffff+1
    ffff+1 ffff+1 ffff+1 ffff+1 ffff+1 ffff+1 ffff+1 ffff+1 ffff+1 ffff+1 ffff+101 f1+e0f efff+1
    ffff+1 ffff+1"),
  (.mark,
    "300+6f 114+6 108+2c 2 2+1 2+1 2 49+a 31+14 11 66+6 3+5 3+1 2+3 24 1f+1a 5c+a 3b+8 a 19+3
    2+8 2+2 2+4 2c+2 3d+7 2b+17 2+1f 38 2 5+7 5 4+6 b+1 1e 3b 5+3 9 15+1 1b 3+1 3a 5+1 5+1 3+2 4
    1f+1 4 c+1 3a 5+4 2+1 5 15+1 17+5 2 3b 3 2+3 9 8+1 c+1 1f 3e d 33 4 38 2+2 6+2 2+3 8+1 c+1
    1e 3b 10+1 15+1 1d+1 3a+1 5+3 9 15+1 1e 49 8+2 2 5b 3+6 d+7 63 3+8 c+6 4a+1 1c 2 2 38+d 2+4
    2+1 6+a 2+23 a 67+3 2+5 2+1 3+1 1a+1 5+2 11+3 e 3+1 7 10 2c0+2 3b3+2 1e+1 1f+1 1f+1 41+1 2+6
    9 3+a a 2e+2 2 76+1 23 77+2 5+1 a 7+2 dc+1 3 3b 2+6 2 2 3+7 7+9 3 31+1e 32+3 31 2+4 2 6 29+8
    d+1 21+3 3+1 2+2 39 2+1 4 2+2 3b+7 3+1 99+2 2+c 2+6 5 7 4+1 c7+3f 2d1+20 bff+2 8e 61+1f
    22b+3 6c+1 75d5+3 2+9 21+1 51+1 111 4 5 1a+1 6 98+1 1b+11 e 27+7 1a+a 2f+2 31 3+3 3+1 28
    44+5 3+1 3+1 d 9 30 34 2+2 3+1 6+1 2 2b+1 9 ef 3 5 4f31 2e2+f 11+f 3ce e3 96+4 687+2 2+1 6+3
    29+2 5 a6+1 23e+3 184+1 51+2 47+a 32+3 7c 37+e 2a 3+1 b+2 32+3 3+1 8 3e+2 25+4 2+7 3f d+1
    35+8 b+3 3 60+2 3 2+1 7 3 9e 4+7 16+1 3a+1 4 26+6 4+4 c4+7 3+2 2 18 55+5 2 5+1 2+1 ef+3 7+1
    2+1 1c+1 56+7 3 2+1 6b 2 3+5 2 66+2 3+3 2+4 104+8 2+1 101+1 2 5 91+3 3+1 5 21+5 3+1 29+5 3+3
    9 a+5 3+2 2f+c 2+1 197+6 2+5 55+15 3+6 2+1 2+1 7b+5 4 2+1 2+6 2 49+1 4 2 15c+1 c+1 35+4 6 2
    14fe 7+e 369b+4 3c+6 419 40+3 52 4cb9+1 1262+2d 3+16 221+2 12+7 3+6 1f+3 95+2 7bc+36 5+31 9
    f 17+4 2+e 551+6 2+10 3+6 2+1 2+4 65 a1+6 178 3e+3 1fd+3 3e1+6 6e+6 c17b6+ef")]

/-- The characters of each class but the first. -/
def directions : List (Direction × CharSet) :=
  directionTables.map fun (d, table) => (d, CharSet.ofTable table)

/-- The class of a character. -/
def direction (c : Char) : Direction :=
  ((directions.find? fun (_, chars) => chars.contains c).map Prod.fst).getD .left

end PushNotice.Unicode
