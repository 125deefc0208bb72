import Mathlib.Logic.Basic
import PushNotice.Commit.Filter

/-!
# PushNotice.Proofs.Commit.Selection

**What becomes of a commit.** A commit that is looked at is either kept or left out for one reason,
which is reported. Commits are looked at one after the other, and what becomes of one does not
depend on the others (`sifts_iff`), so that the kept ones and the reports come in the order of the
commits.
-/

namespace PushNotice.Commit

/-- The text that a commit is judged by: its message, or nothing if it has no textual one. -/
inductive HasMessage (commit : Json) : String → Prop where
  | text {message : String} (found : commit.get? "message" = some (.string message)) :
    HasMessage commit message
  | missing (none : ∀ message, commit.get? "message" ≠ some (.string message)) :
    HasMessage commit ""

namespace Filter

/-! ### What a filter does, in words of its patterns -/

/-- There is no include pattern, or one is found in the message. -/
def Includes (filter : Filter) (message : String) : Prop :=
  filter.included.patterns = [] ∨ ∃ p ∈ filter.included.patterns, p.foundIn message = true

/-- A commit with this message is kept. -/
structure Keeps (filter : Filter) (message : String) : Prop where
  included : filter.Includes message
  notExcluded : ∀ p ∈ filter.excluded.patterns, p.foundIn message = false

/-- A commit with this message is left out, for the reason given. -/
inductive Refuses (filter : Filter) (message : String) : Skip → Prop where
  /-- No include pattern is found, whatever the exclude patterns are. -/
  | notIncluded (absent : ¬ filter.Includes message) : Refuses filter message .notIncluded
  /-- Of the exclude patterns this is the first one that is found. -/
  | excluded {earlier later : List Pattern} {p : Pattern} (included : filter.Includes message)
      (listed : filter.excluded.patterns = earlier ++ p :: later)
      (unfound : ∀ q ∈ earlier, q.foundIn message = false) (found : p.foundIn message = true) :
      Refuses filter message (.excluded p.source)

/-- The commits that a filter looks at, of those that there are. -/
inductive LooksAt (filter : Filter) : List Json → List Json → Prop where
  | all {commits : List Json} (unrestricted : filter.lastOnly = false) :
    LooksAt filter commits commits
  | none (lastOnly : filter.lastOnly = true) : LooksAt filter [] []
  | last {earlier : List Json} {commit : Json} (lastOnly : filter.lastOnly = true) :
    LooksAt filter (earlier ++ [commit]) [commit]

/-- What becomes of commits that are looked at one after the other: the first list is kept, and the
others are reported. -/
inductive Sifts (filter : Filter) : List Json → List Json → List Log.Event → Prop where
  | nil : Sifts filter [] [] []
  | keep {commit : Json} {commits kept : List Json} {events : List Log.Event} {message : String}
      (has : HasMessage commit message) (keeps : filter.Keeps message)
      (rest : Sifts filter commits kept events) :
      Sifts filter (commit :: commits) (commit :: kept) events
  | skip {commit : Json} {commits kept : List Json} {events : List Log.Event} {message : String}
      {reason : Skip} (has : HasMessage commit message) (refuses : filter.Refuses message reason)
      (rest : Sifts filter commits kept events) :
      Sifts filter (commit :: commits) kept (Skip.event message reason :: events)

end Filter

/-! ### One commit -/

theorem hasMessage_iff {commit : Json} {message : String} :
    HasMessage commit message ↔ messageOf commit = message := by
  unfold messageOf
  constructor
  · intro h
    cases h with
    | text found => rw [Json.textOf?_eq_some_iff.2 found, Option.getD_some]
    | missing none =>
      have untold : commit.textOf? "message" = .none := by
        refine Option.eq_none_iff_forall_ne_some.2 fun message told => ?_
        exact none message (Json.textOf?_eq_some_iff.1 told)
      rw [untold, Option.getD_none]
  · rintro rfl
    cases told : commit.textOf? "message" with
    | some message => exact .text (Json.textOf?_eq_some_iff.1 told)
    | none =>
      refine .missing fun message found => ?_
      rw [Json.textOf?_eq_some_iff.2 found] at told
      simp at told

namespace Filter

variable {filter : Filter} {message : String}

theorem includes_iff :
    filter.Includes message ↔
      ¬ (!filter.included.isEmpty && !filter.included.matchesAny message) = true := by
  rw [Bool.and_eq_true, Bool.not_eq_true', Bool.not_eq_true', not_and_or, Bool.not_eq_false,
    Bool.not_eq_false, PatternSet.isEmpty_iff, PatternSet.matchesAny_iff]
  rfl

theorem skip?_of_not_includes (h : ¬ filter.Includes message) :
    filter.skip? message = some .notIncluded :=
  if_pos (not_not.1 (includes_iff.not.1 h))

theorem skip?_of_includes (h : filter.Includes message) :
    filter.skip? message = (filter.excluded.firstMatch? message).map .excluded :=
  if_neg (includes_iff.1 h)

theorem skip?_eq_none_iff : filter.skip? message = none ↔ filter.Keeps message := by
  by_cases included : filter.Includes message
  · rw [skip?_of_includes included, Option.map_eq_none_iff, PatternSet.firstMatch?_eq_none_iff]
    exact ⟨fun unfound => ⟨included, unfound⟩, Keeps.notExcluded⟩
  · rw [skip?_of_not_includes included]
    exact ⟨nofun, fun keeps => absurd keeps.included included⟩

theorem skip?_eq_some_iff {reason : Skip} :
    filter.skip? message = some reason ↔ filter.Refuses message reason := by
  by_cases included : filter.Includes message
  · rw [skip?_of_includes included, Option.map_eq_some_iff]
    constructor
    · rintro ⟨source, first, rfl⟩
      obtain ⟨earlier, p, later, listed, unfound, found, rfl⟩ :=
        PatternSet.firstMatch?_eq_some_iff.1 first
      exact .excluded included listed unfound found
    · intro refused
      cases refused with
      | notIncluded absent => exact absurd included absent
      | excluded _ listed unfound found =>
        exact ⟨_, PatternSet.firstMatch?_eq_some_iff.2 ⟨_, _, _, listed, unfound, found, rfl⟩, rfl⟩
  · rw [skip?_of_not_includes included]
    constructor
    · rintro h
      obtain rfl := Option.some.inj h
      exact .notIncluded included
    · intro refused
      cases refused with
      | notIncluded => rfl
      | excluded included' => exact absurd included' included

/-! ### Lists of commits -/

theorem looksAt_iff {commits looked : List Json} :
    filter.LooksAt commits looked ↔ filter.candidates commits = looked := by
  unfold candidates
  constructor
  · intro h
    cases h with
    | all unrestricted => rw [unrestricted]; rfl
    | none lastOnly => rw [lastOnly]; rfl
    | last lastOnly => simp [lastOnly]
  · rintro rfl
    cases restricted : filter.lastOnly with
    | false => exact .all restricted
    | true =>
      rcases List.eq_nil_or_concat commits with rfl | ⟨earlier, last, rfl⟩
      · exact .none restricted
      · simpa using LooksAt.last restricted

/-- **Commits are judged one by one**, and what is kept and reported is determined by that. -/
theorem sifts_iff {looked kept : List Json} {events : List Log.Event} :
    filter.Sifts looked kept events ↔
      (looked.filter fun commit => (filter.skip? (messageOf commit)).isNone) = kept ∧
      (looked.filterMap fun commit =>
        (filter.skip? (messageOf commit)).map (Skip.event (messageOf commit))) = events := by
  constructor
  · intro h
    induction h with
    | nil => exact ⟨rfl, rfl⟩
    | keep has keeps _ ih =>
      have kept := skip?_eq_none_iff.2 keeps
      obtain rfl := hasMessage_iff.1 has
      simp [kept, ih]
    | skip has refuses _ ih =>
      have skipped := skip?_eq_some_iff.2 refuses
      obtain rfl := hasMessage_iff.1 has
      simp [skipped, ih]
  · rintro ⟨rfl, rfl⟩
    induction looked with
    | nil => exact .nil
    | cons commit looked ih =>
      have has : HasMessage commit (messageOf commit) := hasMessage_iff.2 rfl
      cases skipped : filter.skip? (messageOf commit) with
      | none => simpa [skipped] using Sifts.keep has (skip?_eq_none_iff.1 skipped) ih
      | some reason => simpa [skipped] using Sifts.skip has (skip?_eq_some_iff.1 skipped) ih

section

variable {looked kept : List Json} {events : List Log.Event}

theorem Sifts.sublist (h : filter.Sifts looked kept events) : kept.Sublist looked := by
  induction h with
  | nil => exact .slnil
  | keep _ _ _ ih => exact ih.cons_cons _
  | skip _ _ _ ih => exact ih.cons _

/-- Every commit that is looked at is kept or reported. -/
theorem Sifts.length (h : filter.Sifts looked kept events) :
    kept.length + events.length = looked.length := by
  induction h with
  | nil => rfl
  | keep | skip => simp only [List.length_cons]; omega

end

/-- What a filter keeps of the commits that it looks at. -/
theorem mem_select_iff {commits : List Json} {commit : Json} :
    commit ∈ filter.select commits ↔
      commit ∈ filter.candidates commits ∧ filter.Keeps (messageOf commit) := by
  rw [select, List.mem_filter, Option.isNone_iff_eq_none, skip?_eq_none_iff]

/-- **Every commit that is looked at is kept or reported.** The kept ones are those in whose message
an include pattern is found, if there are any, and no exclude pattern; each of the others is
reported once, with its first reason, and no commit that is kept or not looked at is. Commits are
judged one by one, so that lists of commits are selected from one after the other, or from the last
one that is not empty if only the last commit counts. -/
theorem select_sifts (filter : Filter) (commits : List Json) :
    (∀ kept events,
      (∃ looked, filter.LooksAt commits looked ∧ filter.Sifts looked kept events) ↔
        filter.select commits = kept ∧ filter.skipEvents commits = events) ∧
    (∃ looked, filter.LooksAt commits looked ∧ (filter.select commits).Sublist looked ∧
      (∀ commit ∈ looked, ∀ message, HasMessage commit message →
        (commit ∈ filter.select commits ↔ filter.Keeps message)) ∧
      (filter.select commits).length + (filter.skipEvents commits).length = looked.length) ∧
    (∀ event ∈ filter.skipEvents commits, event.level = .debug) ∧
    (filter.lastOnly = false → ∀ more,
      filter.select (commits ++ more) = filter.select commits ++ filter.select more ∧
      filter.skipEvents (commits ++ more) =
        filter.skipEvents commits ++ filter.skipEvents more) ∧
    (filter.lastOnly = true → ∀ more, more ≠ [] →
      filter.select (commits ++ more) = filter.select more ∧
      filter.skipEvents (commits ++ more) = filter.skipEvents more) := by
  have looks : filter.LooksAt commits (filter.candidates commits) := looksAt_iff.2 rfl
  have sifted : filter.Sifts (filter.candidates commits) (filter.select commits)
      (filter.skipEvents commits) := sifts_iff.2 ⟨rfl, rfl⟩
  refine ⟨fun kept events => ⟨?_, ?_⟩, ⟨_, looks, sifted.sublist, ?_, sifted.length⟩,
    fun _ mem => level_of_mem_skipEvents mem, fun unrestricted more => ?_,
    fun lastOnly more some_more => ?_⟩
  · rintro ⟨looked, looks, sifted⟩
    obtain rfl := looksAt_iff.1 looks
    exact sifts_iff.1 sifted
  · rintro ⟨rfl, rfl⟩
    exact ⟨_, looks, sifted⟩
  · rintro commit mem message has
    obtain rfl := hasMessage_iff.1 has
    rw [mem_select_iff, and_iff_right mem]
  · exact ⟨select_append unrestricted commits more, skipEvents_append unrestricted commits more⟩
  · exact ⟨select_append_of_lastOnly lastOnly commits some_more,
      skipEvents_append_of_lastOnly lastOnly commits some_more⟩

/-- A commit for which two reasons speak, one in whose message two exclude patterns are found, and
one without a message, among four that are looked at, or only the last one of them. -/
theorem select_sifts_first_reason :
    let filter : Filter := ⟨false, ⟨["^fix"].filterMap Pattern.compile?⟩,
      ⟨["WIP", "draft"].filterMap Pattern.compile?⟩⟩
    let onlyLast : Filter := { filter with lastOnly := true }
    let commits := [Json.object [("message", .string "docs: WIP")],
      .object [("message", .string "fix: draft, WIP")], .null,
      .object [("message", .string "fix: x")]]
    let events := [Log.Event.commitNotIncluded "docs: WIP",
      .commitExcluded "fix: draft, WIP" "WIP", .commitNotIncluded ""]
    (∃ looked, filter.LooksAt commits looked ∧
      filter.Sifts looked (filter.select commits) events) ∧
    (filter.select commits).length = 1 ∧
    filter.lastOnly = false ∧
    filter.select (commits ++ commits) = filter.select commits ++ filter.select commits ∧
    onlyLast.lastOnly = true ∧ commits ≠ [] ∧
    onlyLast.select (commits ++ commits) = onlyLast.select commits := by
  intro filter onlyLast commits events
  have reported : filter.skipEvents commits = events := by decide +kernel
  have some_commit : commits ≠ [] := List.cons_ne_nil _ _
  obtain ⟨sifts, -, -, each, -⟩ := select_sifts filter commits
  obtain ⟨-, -, -, -, last⟩ := select_sifts onlyLast commits
  exact ⟨(sifts _ events).2 ⟨rfl, reported⟩, by decide +kernel, rfl, (each rfl commits).1, rfl,
    some_commit, (last rfl commits some_commit).1⟩

end Filter

end PushNotice.Commit
