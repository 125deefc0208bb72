import Mathlib.Data.List.Basic
import PushNotice.Proofs.Commit.Selection
import PushNotice.Proofs.Result

/-!
# PushNotice.Proofs.Commit.Monotone

**More patterns, more or fewer commits.** What a filter keeps depends on its patterns only through
what is found by some pattern of a list (`keeps_iff_passes`), so that neither their order nor a
repetition matters. More exclude patterns keep fewer commits. More include patterns keep more, but
for the first one: without any, all commits are kept.
-/

namespace PushNotice

/-- The pattern with this text is found in a message. -/
def Pattern.Finds (source message : String) : Prop :=
  ∃ p, Pattern.compile? source = some p ∧ p.foundIn message = true

namespace Options

/-- Every pattern of the options can be compiled. -/
def WellPatterned (o : Options) : Prop :=
  ∀ source ∈ o.includeCommits ++ o.excludeCommits, (Pattern.compile? source).isSome = true

instance (o : Options) : Decidable o.WellPatterned :=
  inferInstanceAs (Decidable (∀ source ∈ _, _ = true))

/-- A message passes the patterns of the options. -/
structure Passes (o : Options) (message : String) : Prop where
  included : o.includeCommits = [] ∨ ∃ source ∈ o.includeCommits, Pattern.Finds source message
  notExcluded : ∀ source ∈ o.excludeCommits, ¬ Pattern.Finds source message

/-- The patterns of the second options are more lenient than those of the first ones: what passes
the first ones passes the second ones. -/
structure Relaxed (o o' : Options) : Prop where
  /-- Include patterns are only added to others, or all of them are dropped. -/
  included : o'.includeCommits = [] ∨ o.includeCommits ≠ [] ∧ o.includeCommits ⊆ o'.includeCommits
  excluded : o'.excludeCommits ⊆ o.excludeCommits

variable {o o' : Options} {message : String}

theorem WellPatterned.of_subset (well : o.WellPatterned)
    (included : o'.includeCommits ⊆ o.includeCommits)
    (excluded : o'.excludeCommits ⊆ o.excludeCommits) : o'.WellPatterned := by
  intro source mem
  rcases List.mem_append.1 mem with listed | listed
  · exact well source (List.mem_append_left _ (included listed))
  · exact well source (List.mem_append_right _ (excluded listed))

theorem WellPatterned.includedOnly (well : o.WellPatterned) :
    { o with excludeCommits := [] }.WellPatterned :=
  well.of_subset (List.Subset.refl _) (List.nil_subset _)

theorem WellPatterned.excludedOnly (well : o.WellPatterned) :
    { o with includeCommits := [] }.WellPatterned :=
  well.of_subset (List.nil_subset _) (List.Subset.refl _)

theorem Passes.of_relaxed (passes : o.Passes message) (relaxed : o.Relaxed o') :
    o'.Passes message where
  included := by
    rcases relaxed.included with dropped | ⟨some_pattern, more⟩
    · exact .inl dropped
    · obtain ⟨source, listed, found⟩ := passes.included.resolve_left some_pattern
      exact .inr ⟨source, more listed, found⟩
  notExcluded := fun source listed => passes.notExcluded source (relaxed.excluded listed)

/-- Neither the order nor the number of the include patterns matters. -/
theorem Relaxed.of_mem_iff
    (same : ∀ source, source ∈ o'.includeCommits ↔ source ∈ o.includeCommits)
    (fewer : o'.excludeCommits ⊆ o.excludeCommits) : o.Relaxed o' where
  included := by
    -- A list without patterns keeps all, so that it must not turn into one with a pattern.
    by_cases empty : o.includeCommits = []
    · exact .inl (List.subset_nil.1 fun source listed => empty ▸ (same source).1 listed)
    · exact .inr ⟨empty, fun source => (same source).2⟩
  excluded := fewer

/-- **Each list of patterns decides for itself.** -/
theorem passes_iff_each :
    o.Passes message ↔
      { o with excludeCommits := [] }.Passes message ∧
        { o with includeCommits := [] }.Passes message :=
  ⟨fun passes => ⟨⟨passes.included, nofun⟩, ⟨.inl rfl, passes.notExcluded⟩⟩,
    fun passes => ⟨passes.1.included, passes.2.notExcluded⟩⟩

end Options

/-! ### Compiling -/

namespace PatternSet

theorem compileAll_eq_ok_iff {sources : List String} {patterns : List Pattern} :
    compileAll sources = .ok patterns ↔
      (∀ source ∈ sources, (Pattern.compile? source).isSome = true) ∧
        sources.filterMap Pattern.compile? = patterns := by
  induction sources generalizing patterns with
  | nil => simp [compileAll]
  | cons source sources ih =>
    rw [compileAll]
    cases written : Pattern.compile? source with
    | none => simp [written]
    | some p =>
      simp only [map_eq_ok_iff, ih, List.filterMap_cons_some written, List.forall_mem_cons,
        written, Option.isSome_some, true_and, and_assoc, exists_and_left, exists_eq_left']

theorem compile_eq_ok_iff {sources : List String} {set : PatternSet} :
    compile sources = .ok set ↔
      (∀ source ∈ sources, (Pattern.compile? source).isSome = true) ∧
        ⟨sources.filterMap Pattern.compile?⟩ = set := by
  rw [compile, map_eq_ok_iff]
  constructor
  · rintro ⟨patterns, compiled, rfl⟩
    obtain ⟨each, rfl⟩ := compileAll_eq_ok_iff.1 compiled
    exact ⟨each, rfl⟩
  · rintro ⟨each, rfl⟩
    exact ⟨_, compileAll_eq_ok_iff.2 ⟨each, rfl⟩, rfl⟩

end PatternSet

namespace Commit

theorem compilePatterns_eq_ok_iff {option : String} {sources : List String} {set : PatternSet} :
    compilePatterns option sources = .ok set ↔
      (∀ source ∈ sources, (Pattern.compile? source).isSome = true) ∧
        ⟨sources.filterMap Pattern.compile?⟩ = set :=
  mapError_eq_ok_iff.trans PatternSet.compile_eq_ok_iff

namespace Filter

/-- The filter that options describe if their patterns can be compiled. -/
def ofPatterns (o : Options) : Filter where
  lastOnly := o.lastCommitOnly
  included := ⟨o.includeCommits.filterMap Pattern.compile?⟩
  excluded := ⟨o.excludeCommits.filterMap Pattern.compile?⟩

theorem ofOptions_eq_ok_iff {o : Options} {filter : Filter} :
    ofOptions o = .ok filter ↔ o.WellPatterned ∧ ofPatterns o = filter := by
  unfold ofOptions Options.WellPatterned
  rw [List.forall_mem_append]
  constructor
  · intro h
    cases included : compilePatterns includeOption o.includeCommits with
    | error fault => simp [included] at h
    | ok set =>
      cases excluded : compilePatterns excludeOption o.excludeCommits with
      | error fault => simp [included, excluded] at h
      | ok set' =>
        obtain ⟨each, rfl⟩ := compilePatterns_eq_ok_iff.1 included
        obtain ⟨each', rfl⟩ := compilePatterns_eq_ok_iff.1 excluded
        simp only [included, excluded, Except.ok.injEq] at h
        exact ⟨⟨each, each'⟩, h⟩
  · rintro ⟨⟨each, each'⟩, rfl⟩
    rw [compilePatterns_eq_ok_iff.2 ⟨each, rfl⟩, compilePatterns_eq_ok_iff.2 ⟨each', rfl⟩]
    rfl

/-! ### Messages -/

theorem exists_found_iff {sources : List String} {message : String} :
    (∃ p ∈ sources.filterMap Pattern.compile?, p.foundIn message = true) ↔
      ∃ source ∈ sources, Pattern.Finds source message := by
  constructor
  · rintro ⟨p, mem, found⟩
    obtain ⟨source, listed, written⟩ := List.mem_filterMap.1 mem
    exact ⟨source, listed, p, written, found⟩
  · rintro ⟨source, listed, p, written, found⟩
    exact ⟨p, List.mem_filterMap.2 ⟨source, listed, written⟩, found⟩

theorem included_eq_nil_iff {o : Options} (well : o.WellPatterned) :
    (ofPatterns o).included.patterns = [] ↔ o.includeCommits = [] := by
  rw [ofPatterns, List.filterMap_eq_nil_iff, List.eq_nil_iff_forall_not_mem]
  refine ⟨fun none source listed => ?_, fun empty source listed => absurd listed (empty source)⟩
  have written := well source (List.mem_append_left _ listed)
  simp [none source listed] at written

/-- **A commit is kept if its message passes the patterns.** -/
theorem keeps_iff_passes {o : Options} (well : o.WellPatterned) {message : String} :
    (ofPatterns o).Keeps message ↔ o.Passes message := by
  have included : (ofPatterns o).Includes message ↔
      o.includeCommits = [] ∨ ∃ source ∈ o.includeCommits, Pattern.Finds source message :=
    or_congr (included_eq_nil_iff well) exists_found_iff
  have notExcluded : (∀ p ∈ (ofPatterns o).excluded.patterns, p.foundIn message = false) ↔
      ∀ source ∈ o.excludeCommits, ¬ Pattern.Finds source message := by
    have found : (∃ p ∈ (ofPatterns o).excluded.patterns, p.foundIn message = true) ↔
        ∃ source ∈ o.excludeCommits, Pattern.Finds source message := exists_found_iff
    simpa using not_congr found
  exact ⟨fun keeps => ⟨included.1 keeps.included, notExcluded.1 keeps.notExcluded⟩,
    fun passes => ⟨included.2 passes.included, notExcluded.2 passes.notExcluded⟩⟩

theorem keeps_iff_each {o : Options} (well : o.WellPatterned) (message : String) :
    (ofPatterns o).Keeps message ↔
      (ofPatterns { o with excludeCommits := [] }).Keeps message ∧
        (ofPatterns { o with includeCommits := [] }).Keeps message := by
  rw [keeps_iff_passes well, keeps_iff_passes well.includedOnly,
    keeps_iff_passes well.excludedOnly, Options.passes_iff_each]

/-! ### Commits -/

section

variable {few many : Filter} (same : few.lastOnly = many.lastOnly)
include same

theorem candidates_congr (commits : List Json) :
    few.candidates commits = many.candidates commits := by
  rw [candidates, candidates, same]

/-- A filter that keeps fewer messages keeps fewer commits. -/
theorem select_sublist (fewer : ∀ message, few.Keeps message → many.Keeps message)
    (commits : List Json) : (few.select commits).Sublist (many.select commits) := by
  rw [select, select, candidates_congr same]
  refine List.monotone_filter_right _ fun commit kept => ?_
  rw [Option.isNone_iff_eq_none, skip?_eq_none_iff] at kept ⊢
  exact fewer _ kept

end

/-- A filter looks at each of the commits that are left of those it looks at. -/
theorem candidates_filter (filter : Filter) (p : Json → Bool) (commits : List Json) :
    filter.candidates ((filter.candidates commits).filter p) =
      (filter.candidates commits).filter p := by
  unfold candidates
  cases filter.lastOnly with
  | false => rfl
  | true =>
    cases commits.getLast? with
    | none => rfl
    | some last => cases kept : p last <;> simp [kept]

/-- A filter that keeps what two others keep can be put in their place, one after the other. -/
theorem select_select {filter first second : Filter} (same : first.lastOnly = filter.lastOnly)
    (same' : second.lastOnly = filter.lastOnly)
    (both : ∀ message, filter.Keeps message ↔ first.Keeps message ∧ second.Keeps message)
    (commits : List Json) : second.select (first.select commits) = filter.select commits := by
  rw [select, select, candidates_congr same, candidates_congr same', candidates_filter,
    List.filter_filter, select]
  refine List.filter_congr fun commit _ => Bool.eq_iff_iff.2 ?_
  simp only [Bool.and_eq_true, Option.isNone_iff_eq_none, skip?_eq_none_iff, both, and_comm]

variable {o o' : Options}

theorem select_sublist_of_relaxed (well : o.WellPatterned) (well' : o'.WellPatterned)
    (same : o.lastCommitOnly = o'.lastCommitOnly) (relaxed : o.Relaxed o') (commits : List Json) :
    ((ofPatterns o).select commits).Sublist ((ofPatterns o').select commits) := by
  have same' : (ofPatterns o).lastOnly = (ofPatterns o').lastOnly := same
  refine select_sublist same' (fun message keeps => ?_) commits
  have passes := (keeps_iff_passes well).1 keeps
  exact (keeps_iff_passes well').2 (passes.of_relaxed relaxed)

/-- Options with the same patterns keep the same, because each are as lenient as the others. -/
theorem select_eq_of_mem_iff (well : o.WellPatterned) (well' : o'.WellPatterned)
    (same : o.lastCommitOnly = o'.lastCommitOnly)
    (included : ∀ source, source ∈ o'.includeCommits ↔ source ∈ o.includeCommits)
    (excluded : ∀ source, source ∈ o'.excludeCommits ↔ source ∈ o.excludeCommits)
    (commits : List Json) : (ofPatterns o').select commits = (ofPatterns o).select commits := by
  refine List.Sublist.antisymm ?_ ?_
  · refine select_sublist_of_relaxed well' well same.symm ?_ commits
    exact .of_mem_iff (fun source => (included source).symm) fun source => (excluded source).2
  · refine select_sublist_of_relaxed well well' same ?_ commits
    exact .of_mem_iff included fun source => (excluded source).1

/-- **How what is kept depends on the patterns.** A commit that is looked at is kept if its message
passes them. Neither their order nor a repetition matters. More exclude patterns keep no other
commits, and neither does the first include pattern; more include patterns lose no commits. The
commits that are kept are those that the include patterns alone keep and the exclude patterns alone
keep. -/
theorem select_of_patterns {filter : Filter} (compiled : ofOptions o = .ok filter) :
    (∀ commits commit, commit ∈ filter.select commits ↔
      commit ∈ filter.candidates commits ∧ o.Passes (messageOf commit)) ∧
    (∀ o', o'.lastCommitOnly = o.lastCommitOnly →
      (∀ source, source ∈ o'.includeCommits ↔ source ∈ o.includeCommits) →
      (∀ source, source ∈ o'.excludeCommits ↔ source ∈ o.excludeCommits) →
      ∃ filter', ofOptions o' = .ok filter' ∧
        ∀ commits, filter'.select commits = filter.select commits) ∧
    (∀ o' filter', ofOptions o' = .ok filter' → o'.lastCommitOnly = o.lastCommitOnly →
      (o'.includeCommits = o.includeCommits → o.excludeCommits ⊆ o'.excludeCommits →
        ∀ commits, (filter'.select commits).Sublist (filter.select commits)) ∧
      (o'.excludeCommits = o.excludeCommits → o.includeCommits ≠ [] →
        o.includeCommits ⊆ o'.includeCommits →
        ∀ commits, (filter.select commits).Sublist (filter'.select commits)) ∧
      (o'.excludeCommits = o.excludeCommits → o.includeCommits = [] →
        ∀ commits, (filter'.select commits).Sublist (filter.select commits))) ∧
    ∃ byIncluded byExcluded,
      ofOptions { o with excludeCommits := [] } = .ok byIncluded ∧
      ofOptions { o with includeCommits := [] } = .ok byExcluded ∧
      ∀ commits,
        (∀ commit, commit ∈ filter.select commits ↔
          commit ∈ byIncluded.select commits ∧ commit ∈ byExcluded.select commits) ∧
        filter.select commits = byExcluded.select (byIncluded.select commits) := by
  obtain ⟨well, rfl⟩ := ofOptions_eq_ok_iff.1 compiled
  refine ⟨fun commits commit => ?_, fun o' same included excluded => ?_,
    fun o' filter' compiled' same => ?_, ?_⟩
  · rw [mem_select_iff, keeps_iff_passes well]
  · have well' : o'.WellPatterned :=
      well.of_subset (fun source => (included source).1) fun source => (excluded source).1
    exact ⟨_, ofOptions_eq_ok_iff.2 ⟨well', rfl⟩,
      select_eq_of_mem_iff well well' same.symm included excluded⟩
  · obtain ⟨well', rfl⟩ := ofOptions_eq_ok_iff.1 compiled'
    refine ⟨fun included more => ?_, fun excluded some_pattern more => ?_, fun excluded none => ?_⟩
    · exact select_sublist_of_relaxed well' well same (.of_mem_iff (by simp [included]) more)
    · refine select_sublist_of_relaxed well well' same.symm ⟨.inr ⟨some_pattern, more⟩, ?_⟩
      exact excluded ▸ List.Subset.refl _
    · refine select_sublist_of_relaxed well' well same ⟨.inl none, ?_⟩
      exact excluded ▸ List.Subset.refl _
  · have each := keeps_iff_each well
    refine ⟨_, _, ofOptions_eq_ok_iff.2 ⟨well.includedOnly, rfl⟩,
      ofOptions_eq_ok_iff.2 ⟨well.excludedOnly, rfl⟩, fun commits => ⟨fun commit => ?_, ?_⟩⟩
    · simp only [mem_select_iff, each]
      exact and_and_left
    · refine (select_select ?_ ?_ each commits).symm <;> rfl

/-- A first include pattern leaves out a commit, and a second one brings it back. -/
theorem select_of_patterns_first_and_second :
    let without : Options := { Options.initial with excludeCommits := ["WIP"] }
    let first : Options := { without with includeCommits := ["^fix"] }
    let second : Options := { without with includeCommits := ["docs", "^fix", "docs"] }
    let kept (o : Options) : List Json := (ofPatterns o).select
      [.object [("message", .string "docs: x")], .object [("message", .string "fix: y")],
        .object [("message", .string "fix: WIP")]]
    (∀ o ∈ [without, first, second], ofOptions o = .ok (ofPatterns o)) ∧
    (kept first).Sublist (kept without) ∧ (kept first).Sublist (kept second) ∧
    [without, first, second].map (List.length ∘ kept) = [2, 1, 2] := by
  intro without first second kept
  have compiled : ∀ o ∈ [without, first, second], ofOptions o = .ok (ofPatterns o) := by
    have well : ∀ o ∈ [without, first, second], o.WellPatterned := by decide +kernel
    exact fun o listed => ofOptions_eq_ok_iff.2 ⟨well o listed, rfl⟩
  have compiledFirst := compiled first (by simp)
  obtain ⟨-, -, fewer⟩ :=
    (select_of_patterns (compiled without (by simp))).2.2.1 first _ compiledFirst rfl
  obtain ⟨-, more, -⟩ :=
    (select_of_patterns compiledFirst).2.2.1 second _ (compiled second (by simp)) rfl
  exact ⟨compiled, fewer rfl rfl _, more rfl (by decide) (by decide) _, by decide +kernel⟩

end Filter

end Commit

end PushNotice
