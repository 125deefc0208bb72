import PushNotice.Commit.Annotation
import PushNotice.Log
import PushNotice.Options.Basic
import PushNotice.Pattern.Set

/-!
# PushNotice.Commit.Filter

**Which commits get an embed.** Of the candidates, which are all commits or the last one only,
those stay in whose message an include pattern is found, if there are any, and no exclude pattern.
Every other candidate is reported with the reason.
-/

namespace PushNotice.Commit

/-- Decides which commits get an embed. -/
structure Filter where
  lastOnly : Bool
  included : PatternSet
  excluded : PatternSet

/-- Why a commit gets no embed. -/
inductive Skip where
  | notIncluded
  | excluded (pattern : String)
deriving DecidableEq, Repr

/-- The names of the two options that hold patterns. -/
def includeOption : String := "include-commits"

def excludeOption : String := "exclude-commits"

/-- The patterns of an option, compiled. -/
def compilePatterns (option : String) (sources : List String) : Except Fault PatternSet :=
  (PatternSet.compile sources).mapError fun pattern => .patternMalformed option pattern

namespace Filter

/-- The filter that the options describe. -/
def ofOptions (o : Options) : Except Fault Filter :=
  match compilePatterns includeOption o.includeCommits with
  | .error fault => .error fault
  | .ok included =>
    match compilePatterns excludeOption o.excludeCommits with
    | .error fault => .error fault
    | .ok excluded => .ok ⟨o.lastCommitOnly, included, excluded⟩

/-- Why a commit with a given message gets no embed, if it gets none. -/
def skip? (filter : Filter) (message : String) : Option Skip :=
  if !filter.included.isEmpty && !filter.included.matchesAny message then some .notIncluded
  else (filter.excluded.firstMatch? message).map .excluded

/-- The commits that are looked at. -/
def candidates (filter : Filter) (commits : List α) : List α :=
  if filter.lastOnly then commits.getLast?.toList else commits

/-- The commits that get an embed, in order. -/
def select (filter : Filter) (commits : List Json) : List Json :=
  (filter.candidates commits).filter fun c => (filter.skip? (messageOf c)).isNone

/-- The report that a commit is left out. -/
def Skip.event (message : String) : Skip → Log.Event
  | .notIncluded => .commitNotIncluded message
  | .excluded pattern => .commitExcluded message pattern

/-- The reports on the commits that are left out, in order. -/
def skipEvents (filter : Filter) (commits : List Json) : List Log.Event :=
  (filter.candidates commits).filterMap fun c =>
    (filter.skip? (messageOf c)).map (Skip.event (messageOf c))

/-! ### Lists in two parts -/

section

variable {filter : Filter}

theorem candidates_append (h : filter.lastOnly = false) (commits more : List α) :
    filter.candidates (commits ++ more) = filter.candidates commits ++ filter.candidates more := by
  simp [candidates, h]

/-- Only the last commit is looked at, so that those before it do not matter. -/
theorem candidates_append_of_lastOnly (h : filter.lastOnly = true) (commits : List α)
    {more : List α} (some_more : more ≠ []) :
    filter.candidates (commits ++ more) = filter.candidates more := by
  simp [candidates, h, List.getLast?_eq_some_getLast some_more]

/-- Without the restriction to the last commit, commits are selected one by one. -/
theorem select_append (h : filter.lastOnly = false) (commits more : List Json) :
    filter.select (commits ++ more) = filter.select commits ++ filter.select more := by
  rw [select, candidates_append h, List.filter_append, select, select]

theorem select_append_of_lastOnly (h : filter.lastOnly = true) (commits : List Json)
    {more : List Json} (some_more : more ≠ []) :
    filter.select (commits ++ more) = filter.select more := by
  rw [select, candidates_append_of_lastOnly h commits some_more, select]

theorem skipEvents_append (h : filter.lastOnly = false) (commits more : List Json) :
    filter.skipEvents (commits ++ more) = filter.skipEvents commits ++ filter.skipEvents more := by
  rw [skipEvents, candidates_append h, List.filterMap_append, skipEvents, skipEvents]

theorem skipEvents_append_of_lastOnly (h : filter.lastOnly = true) (commits : List Json)
    {more : List Json} (some_more : more ≠ []) :
    filter.skipEvents (commits ++ more) = filter.skipEvents more := by
  rw [skipEvents, candidates_append_of_lastOnly h commits some_more, skipEvents]

end

/-! ### Reports -/

theorem level_of_mem_skipEvents {filter : Filter} {commits : List Json} {event : Log.Event}
    (mem : event ∈ filter.skipEvents commits) : event.level = .debug := by
  obtain ⟨commit, -, skipped⟩ := List.mem_filterMap.1 mem
  obtain ⟨skip, -, rfl⟩ := Option.map_eq_some_iff.1 skipped
  cases skip with
  | notIncluded => rfl
  | excluded pattern => rfl

end Filter

end PushNotice.Commit
