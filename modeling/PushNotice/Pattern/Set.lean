import PushNotice.Pattern.Reader
import PushNotice.Pattern.Size
import PushNotice.Text.Quoted

/-!
# PushNotice.Pattern.Set

**Lists of patterns.** A list is compiled as a whole: the first pattern that is not well-formed or
too large is the answer if there is one. A pattern is found in a text if it matches anywhere in it.
-/

namespace PushNotice

/-- A pattern: its text and the expression that the text stands for. -/
structure Pattern where
  source : String
  expr : Pattern.Expr

namespace Pattern

/-- The pattern with the given text, if it is well-formed and not too large. The bound on the size
is an approximation (`Pattern.Size`): extreme patterns may be accepted or refused otherwise than by
the engine that they are written for. -/
def compile? (source : String) : Option Pattern :=
  match Expr.ofPattern? source with
  | none => none
  | some expr => if expr.size ≤ sizeLimit then some ⟨source, expr⟩ else none

/-- Whether the pattern is found in a text. -/
def foundIn (p : Pattern) (text : String) : Bool :=
  p.expr.foundIn text

end Pattern

/-- The patterns of one option, in order. -/
structure PatternSet where
  patterns : List Pattern

namespace PatternSet

/-- Compiles the patterns; the error is the first one that cannot be. -/
def compileAll : List String → Except String (List Pattern)
  | [] => .ok []
  | source :: rest =>
    match Pattern.compile? source with
    | none => .error source
    | some p => (compileAll rest).map (p :: ·)

/-- The set of the given patterns; the error is the first one that cannot be compiled. -/
def compile (sources : List String) : Except String PatternSet :=
  (compileAll sources).map PatternSet.mk

def isEmpty (set : PatternSet) : Bool :=
  set.patterns.isEmpty

/-- The text of the first pattern that is found in a message. -/
def firstMatch? (set : PatternSet) (message : String) : Option String :=
  (set.patterns.find? (·.foundIn message)).map (·.source)

/-- Whether some pattern is found in a message. -/
def matchesAny (set : PatternSet) (message : String) : Bool :=
  (set.firstMatch? message).isSome

/-! ### What a set finds -/

theorem isEmpty_iff {set : PatternSet} : set.isEmpty = true ↔ set.patterns = [] :=
  List.isEmpty_iff

/-- The first match is the one that no earlier pattern is found for. -/
theorem firstMatch?_eq_some_iff {set : PatternSet} {message source : String} :
    set.firstMatch? message = some source ↔
      ∃ earlier p later, set.patterns = earlier ++ p :: later ∧
        (∀ q ∈ earlier, q.foundIn message = false) ∧ p.foundIn message = true ∧
        p.source = source := by
  unfold firstMatch?
  constructor
  · intro h
    obtain ⟨p, first, text⟩ := Option.map_eq_some_iff.1 h
    obtain ⟨found, earlier, later, listed, unfound⟩ := List.find?_eq_some_iff_append.1 first
    exact ⟨earlier, p, later, listed, by simpa using unfound, found, text⟩
  · rintro ⟨earlier, p, later, listed, unfound, found, text⟩
    have first : set.patterns.find? (·.foundIn message) = some p :=
      List.find?_eq_some_iff_append.2 ⟨found, earlier, later, listed, by simpa using unfound⟩
    rw [first, Option.map_some, text]

theorem firstMatch?_eq_none_iff {set : PatternSet} {message : String} :
    set.firstMatch? message = none ↔ ∀ p ∈ set.patterns, p.foundIn message = false := by
  simp [firstMatch?]

theorem matchesAny_iff {set : PatternSet} {message : String} :
    set.matchesAny message = true ↔ ∃ p ∈ set.patterns, p.foundIn message = true := by
  simp [matchesAny, firstMatch?]

/-! ### Showing a set -/

/-- A description of the set: the texts of its patterns, quoted. -/
def describe (set : PatternSet) : String :=
  "PatternSet \x7b patterns: [" ++
    String.intercalate ", " (set.patterns.map fun p => Text.quoted p.source) ++ "] \x7d"

end PatternSet

end PushNotice
