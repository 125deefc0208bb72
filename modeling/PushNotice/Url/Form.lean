import PushNotice.Text.Split
import PushNotice.Url.Percent

/-!
# PushNotice.Url.Form

**Name and value pairs as a query.** Pairs are parted by `&`, a name and its value by `=`; blanks
are written as `+`. Reading accepts anything, writing encodes all that is not a letter, a digit
or one of four signs. Pieces with `&` between them are read one by one (`readPairs_intercalate`),
and that is how pairs are written (`writePairs_eq_intercalate`).
-/

namespace PushNotice.Url

/-- A name and its value. -/
abbrev Pair := String × String

/-! ### Reading -/

/-- The text that a name or a value stands for. -/
def decodeComponent (cs : List Char) : String :=
  Text.decodeLossy
    (percentDecode (Text.encodeChars (cs.map fun c => if c = '+' then ' ' else c)))

/-- The pair that a piece of a query stands for. -/
def decodePair (piece : List Char) : Pair :=
  (decodeComponent (piece.takeWhile (· != '=')),
    decodeComponent ((piece.dropWhile (· != '=')).drop 1))

/-- The pairs of a query. -/
def readPairs (query : List Char) : List Pair :=
  ((Text.splitAtMark '&' query).filter (!·.isEmpty)).map decodePair

/-- A pair is parted at the first equals sign. -/
theorem decodePair_append {name : List Char} (h : '=' ∉ name) (value : List Char) :
    decodePair (name ++ '=' :: value) = (decodeComponent name, decodeComponent value) := by
  have before : ∀ c ∈ name, (c != '=') = true := by
    intro c mem
    exact bne_iff_ne.2 fun same => h (same ▸ mem)
  unfold decodePair
  rw [List.takeWhile_append_of_pos before, List.dropWhile_append_of_pos before]
  simp

theorem readPairs_append (before after : List Char) :
    readPairs (before ++ '&' :: after) = readPairs before ++ readPairs after := by
  unfold readPairs
  rw [Text.splitAtMark_append_cons, List.filter_append, List.map_append]

theorem readPairs_of_not_mem {piece : List Char} (whole : '&' ∉ piece) :
    readPairs piece = if piece = [] then [] else [decodePair piece] := by
  unfold readPairs
  rw [Text.splitAtMark_of_not_mem whole]
  by_cases h : piece = [] <;> simp [h]

/-- The pairs of pieces with marks between them are those of one piece after the other. -/
theorem readPairs_intercalate (pieces : List (List Char)) :
    readPairs (['&'].intercalate pieces) = pieces.flatMap readPairs := by
  induction pieces with
  | nil => rfl
  | cons piece pieces ih =>
    cases pieces with
    | nil => simp
    | cons next pieces =>
      rw [List.intercalate_cons_of_ne_nil (List.cons_ne_nil next pieces), List.append_assoc,
        List.singleton_append, readPairs_append, ih]
      rfl

/-! ### Writing -/

/-- Whether a byte stands for itself in a name or a value. -/
def isPlainByte (b : UInt8) : Bool :=
  (asciiChar b).isAlphanum || b == 0x2A || b == 0x2D || b == 0x2E || b == 0x5F

/-- A byte of a name or a value as it is written. -/
def encodeByte (b : UInt8) : List Char :=
  if b == 0x20 then ['+'] else if isPlainByte b then [asciiChar b] else percentByte b

/-- A name or a value as it is written. -/
def encodeComponent (s : String) : List Char :=
  (Text.encode s).flatMap encodeByte

/-- A pair as it is written. -/
def encodePair (pair : Pair) : List Char :=
  encodeComponent pair.1 ++ '=' :: encodeComponent pair.2

/-- The pairs as a query. -/
def writePairs : List Pair → List Char
  | [] => []
  | [pair] => encodePair pair
  | pair :: rest => encodePair pair ++ '&' :: writePairs rest

theorem writePairs_eq_intercalate (pairs : List Pair) :
    writePairs pairs = ['&'].intercalate (pairs.map encodePair) := by
  induction pairs with
  | nil => rfl
  | cons pair pairs ih =>
    cases pairs with
    | nil => simp [writePairs]
    | cons next pairs =>
      have more : (next :: pairs).map encodePair ≠ [] := List.cons_ne_nil _ _
      rw [List.map_cons, List.intercalate_cons_of_ne_nil more, ← ih, List.append_assoc]
      rfl

end PushNotice.Url
