import PushNotice.Unicode.CharSet

/-!
# PushNotice.Unicode.Combining

**Combining classes.** Marks on one character that have different classes do not touch, so their
order has no meaning; `combiningClass` gives the class of a character, zero for a character that
is no such mark.
-/

namespace PushNotice.Unicode

/-- The classes above zero with the marks of each, in the form that `CharSet.ofTable` reads. -/
def combiningTables : List (Nat × String) := [
  (1, "334+4 199c e+6 3ea+1 5+2 b+1 4+1 e94e 60b7+4 51aa 14c9+2"),
  (6, "16ff0+1"),
  (7, "93c 80 80 80 80 100 80 37b afd b2 51 8d7c 6707 b9 57 6c b3 52+1 10a 7d fd f7 183 109 3ff
    cc08"),
  (8, "3099+1"),
  (9, "94d 80 80 80 80 80 80 80 6e+1 11 7d 70 80 ca b5+1 6da+1 1f 9e 28e e4 66+1 47+1 118c 7a87
    26 98 8f 6d 136 f7 5e52 607 2a f 3a 7a+1 8c 75 b5 63 f5 80 fd 80 77 75 10e 104+1 a2 54 13 52
    1a6 105+1 52 1aa+1"),
  (10, "5b0"),
  (11, "5b1"),
  (12, "5b2"),
  (13, "5b3"),
  (14, "5b4"),
  (15, "5b5"),
  (16, "5b6"),
  (17, "5b7"),
  (18, "5b8 f"),
  (19, "5b9+1"),
  (20, "5bb"),
  (21, "5bc"),
  (22, "5bd"),
  (23, "5bf"),
  (24, "5c1"),
  (25, "5c2"),
  (26, "fb1e"),
  (27, "64b 2a5"),
  (28, "64c 2a5"),
  (29, "64d 2a5"),
  (30, "618 36"),
  (31, "619 36"),
  (32, "61a 36"),
  (33, "651"),
  (34, "652"),
  (35, "670"),
  (36, "711"),
  (84, "c55"),
  (91, "c56"),
  (103, "e38+1"),
  (107, "e48+3"),
  (118, "eb8+1"),
  (122, "ec8+3"),
  (129, "f71"),
  (130, "f72 8+3 3"),
  (132, "f74"),
  (202, "321+1 5+1 1aa8"),
  (214, "1dce"),
  (216, "31b c1e 1c22c+1 8+4"),
  (218, "1dfa 1230"),
  (220, "316+3 3+4 3+3 3+a 6+3 b+2 4+1 5+3 3+1 237 5 5 7+5 3 1b 90+1 6 3 84 7 3 44 3 3+2 2+1 2 4
    2 2 2 aa b 5c+2 3e+2 34+4 10 3 3 4+2 7 3+1 58 5c6+1 1c 2 8f c7 8ae dd 67 36+5 3 2+1 3+1 6 a2
    169+4 3+3 e d5 8 5 2a 4 2 2e9 4+3 883c+2 187 5373+6 3d0 e3 72d 2d ac 417+2 47+1 4 2+3 33 2
    c1f6+7 8+1 1363 3e2+6"),
  (222, "59a 13 138c 16f4"),
  (224, "302e+1"),
  (226, "1d16d"),
  (228, "5ae 12fb 54e+1 1233"),
  (230, "300+14 29+7 2 4+2 4+2 5 4 8+c 114+4 10b+3 2+2 3+5 7+1 2+1 3 15 4c+7 3c+1 3+4 2+1 78+6
    3+3 2 3+1 3+1 44 2+1 2+1 4 3 2+2 2 2 2 2+1 a1+6 2 23+3 2+8 2+2 2+4 6b 4+3 2b+4 6+d 3+1 2+1
    2+2 7+2 2+1 3+4 52 2+1 aa 584+1 3+1 3d6+2 47e 15d dd 5e+7 34+4 7+1 5+1 3+4 2+3 9d 2+6 15d+2
    8+1 5 14 4+1 c7+1 2+6 2+1 5+24 6 3 2d2+1 3+3 4+1 5 6 2 7 bff+2 ef+1f 7870 5+9 21+1 51+1
    1ef+11 1bf 2+1 4+1 6+1 2 535f+6 8+1 547+4 695 29 ad 23f+3 184+1 9c+2 2 36 2 17c+2 264+6 4+4
    ea 56d2+6 664f+4 21+3 95+2 dbc+6 2+10 3+6 2+1 2+4 65 a1+6 178 3e+3 200 455+5"),
  (232, "315 5 3e 1a9e 1236 1b4c0+1"),
  (233, "35c 3 3 1a9a"),
  (234, "35d+1 2+1 1a6c"),
  (240, "345")]

/-- The classes above zero with the marks of each. -/
def combiningClasses : List (Nat × CharSet) :=
  combiningTables.map fun (n, table) => (n, CharSet.ofTable table)

/-- The combining class of a character. -/
def combiningClass (c : Char) : Nat :=
  ((combiningClasses.find? fun (_, marks) => marks.contains c).map Prod.fst).getD 0

/-- The class of the signs that join a consonant to the next one. -/
def viramaClass : Nat := 9

end PushNotice.Unicode
