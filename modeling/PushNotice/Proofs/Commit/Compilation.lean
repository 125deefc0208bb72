import PushNotice.Proofs.Commit.Monotone

/-!
# PushNotice.Proofs.Commit.Compilation

**All patterns are compiled, or one is to blame.** The include patterns are compiled before the
exclude patterns, each list in its order, and the first pattern that is not valid ends it
(`compileAll_eq_error_iff`): there is no filter then, and the fault holds that pattern and its
option. Otherwise each set holds one pattern for each text, in the order of the texts, so that of
the patterns that are found in a message the earliest one in the list is reported
(`CompiledFrom.of_valid`).
-/

namespace PushNotice

/-- A text that stands for a pattern. -/
def Pattern.IsValid (source : String) : Prop :=
  (Pattern.compile? source).isSome = true

instance : DecidablePred Pattern.IsValid :=
  fun _ => inferInstanceAs (Decidable (_ = true))

instance (source message : String) : Decidable (Pattern.Finds source message) :=
  decidable_of_iff ((Pattern.compile? source).any (·.foundIn message) = true)
    (Option.any_eq_true _ _)

/-- What is wrong with the patterns of options: one of the include patterns is not valid, or else one
of the exclude patterns. -/
inductive Options.Blames (o : Options) : Fault → Prop where
  | included {source : String} (first : IsFirst (¬ Pattern.IsValid ·) o.includeCommits source) :
    Blames o (.patternMalformed "include-commits" source)
  | excluded {source : String} (valid : ∀ s ∈ o.includeCommits, Pattern.IsValid s)
      (first : IsFirst (¬ Pattern.IsValid ·) o.excludeCommits source) :
    Blames o (.patternMalformed "exclude-commits" source)

/-- A set of patterns has been compiled from texts. -/
structure PatternSet.CompiledFrom (set : PatternSet) (sources : List String) : Prop where
  /-- There is one pattern for each text, in order, and it keeps the text. -/
  each : List.Forall₂ (fun source p => Pattern.compile? source = some p ∧ p.source = source)
    sources set.patterns
  /-- The set matches a message if it has a pattern to report. -/
  matchesAny_iff : ∀ message, set.matchesAny message = true ↔
    ∃ source, set.firstMatch? message = some source
  /-- The pattern to report is the earliest one that is found. -/
  firstMatch?_iff : ∀ message source, set.firstMatch? message = some source ↔
    IsFirst (Pattern.Finds · message) sources source

/-! ### One list -/

/-- A pattern keeps its text. -/
theorem Pattern.source_of_compile? {source : String} {p : Pattern}
    (h : Pattern.compile? source = some p) : p.source = source := by
  unfold compile? at h
  split at h
  · cases h
  · split at h
    · exact Option.some.inj h ▸ rfl
    · cases h

namespace PatternSet

/-- **Compiling a list fails with its first invalid pattern.** -/
theorem compileAll_eq_error_iff {sources : List String} {source : String} :
    compileAll sources = .error source ↔ IsFirst (¬ Pattern.IsValid ·) sources source := by
  induction sources with
  | nil => exact ⟨nofun, nofun⟩
  | cons first sources ih =>
    rw [compileAll, isFirst_cons_iff, ← ih]
    cases written : Pattern.compile? first with
    | none => simp [Pattern.IsValid, written]
    | some p => simp [Pattern.IsValid, written, map_eq_error_iff]

theorem forall₂_filterMap_compile? {sources : List String}
    (valid : ∀ source ∈ sources, Pattern.IsValid source) :
    List.Forall₂ (fun source p => Pattern.compile? source = some p ∧ p.source = source)
      sources (sources.filterMap Pattern.compile?) := by
  induction sources with
  | nil => exact .nil
  | cons source sources ih =>
    obtain ⟨here, later⟩ := List.forall_mem_cons.1 valid
    obtain ⟨p, written⟩ := Option.isSome_iff_exists.1 here
    rw [List.filterMap_cons_some written]
    exact .cons ⟨written, Pattern.source_of_compile? written⟩ (ih later)

/-- What is reported for a message stands in the list of texts as the pattern stands in the set. -/
theorem firstMatch?_of_forall₂ {sources : List String} {patterns : List Pattern}
    (each : List.Forall₂ (fun source p => Pattern.compile? source = some p ∧ p.source = source)
      sources patterns) (message source : String) :
    (PatternSet.mk patterns).firstMatch? message = some source ↔
      IsFirst (Pattern.Finds · message) sources source := by
  induction each with
  | nil => exact ⟨nofun, nofun⟩
  | @cons first p sources patterns written _ ih =>
    obtain ⟨written, rfl⟩ := written
    have finds : Pattern.Finds p.source message ↔ p.foundIn message = true := by
      simp [Pattern.Finds, written]
    rw [isFirst_cons_iff, finds, ← ih]
    unfold firstMatch?
    rw [List.find?_cons]
    cases p.foundIn message <;> simp

theorem CompiledFrom.of_valid {sources : List String}
    (valid : ∀ source ∈ sources, Pattern.IsValid source) :
    CompiledFrom ⟨sources.filterMap Pattern.compile?⟩ sources where
  each := forall₂_filterMap_compile? valid
  matchesAny_iff := fun _ => Option.isSome_iff_exists
  firstMatch?_iff := firstMatch?_of_forall₂ (forall₂_filterMap_compile? valid)

end PatternSet

/-! ### Both lists -/

namespace Commit

theorem compilePatterns_eq_error_iff {option : String} {sources : List String} {fault : Fault} :
    compilePatterns option sources = .error fault ↔
      ∃ source, IsFirst (¬ Pattern.IsValid ·) sources source ∧
        .patternMalformed option source = fault := by
  rw [compilePatterns, mapError_eq_error_iff]
  simp only [PatternSet.compile, map_eq_error_iff, PatternSet.compileAll_eq_error_iff]

namespace Filter

theorem ofOptions_eq_error_iff {o : Options} {fault : Fault} :
    ofOptions o = .error fault ↔ o.Blames fault := by
  have valid_of_ok : ∀ {set}, compilePatterns includeOption o.includeCommits = .ok set →
      ∀ source ∈ o.includeCommits, Pattern.IsValid source :=
    fun compiled => (compilePatterns_eq_ok_iff.1 compiled).1
  unfold ofOptions
  constructor
  · intro h
    cases included : compilePatterns includeOption o.includeCommits with
    | error first =>
      obtain rfl : first = fault := by simpa [included] using h
      obtain ⟨source, first, rfl⟩ := compilePatterns_eq_error_iff.1 included
      exact .included first
    | ok set =>
      cases excluded : compilePatterns excludeOption o.excludeCommits with
      | error first =>
        obtain rfl : first = fault := by simpa [included, excluded] using h
        obtain ⟨source, first, rfl⟩ := compilePatterns_eq_error_iff.1 excluded
        exact .excluded (valid_of_ok included) first
      | ok set' => simp [included, excluded] at h
  · intro h
    cases h with
    | included first =>
      have included : compilePatterns includeOption o.includeCommits = .error _ :=
        compilePatterns_eq_error_iff.2 ⟨_, first, rfl⟩
      simp only [included]
      rfl
    | excluded valid first =>
      have included : compilePatterns includeOption o.includeCommits = .ok _ :=
        compilePatterns_eq_ok_iff.2 ⟨valid, rfl⟩
      have excluded : compilePatterns excludeOption o.excludeCommits = .error _ :=
        compilePatterns_eq_error_iff.2 ⟨_, first, rfl⟩
      simp only [included, excluded]
      rfl

/-- **All patterns are compiled, or the first invalid one is to blame.** There is a filter if every
pattern of the options is valid. If one is not, the fault names it and its option, and an include
pattern comes before all exclude patterns. The sets of a filter hold one pattern for each text, in
order, and for a message they report the earliest text that is found in it, if there is one. -/
theorem ofOptions_compiled_or_blamed (o : Options) :
    ((∃ filter, ofOptions o = .ok filter) ↔
      ∀ source ∈ o.includeCommits ++ o.excludeCommits, Pattern.IsValid source) ∧
    (∀ fault, ofOptions o = .error fault ↔ o.Blames fault) ∧
    ∀ filter, ofOptions o = .ok filter →
      filter.lastOnly = o.lastCommitOnly ∧
      filter.included.CompiledFrom o.includeCommits ∧
      filter.excluded.CompiledFrom o.excludeCommits := by
  refine ⟨⟨?_, fun well => ⟨_, ofOptions_eq_ok_iff.2 ⟨well, rfl⟩⟩⟩, fun _ =>
    ofOptions_eq_error_iff, fun filter compiled => ?_⟩
  · rintro ⟨filter, compiled⟩
    exact (ofOptions_eq_ok_iff.1 compiled).1
  · obtain ⟨well, rfl⟩ := ofOptions_eq_ok_iff.1 compiled
    obtain ⟨included, excluded⟩ := List.forall_mem_append.1 well
    exact ⟨rfl, .of_valid included, .of_valid excluded⟩

/-- Invalid patterns in the second list, in both lists, and in none. -/
theorem ofOptions_compiled_or_blamed_unclosed :
    let o : Options :=
      { Options.initial with
        includeCommits := ["^fix", "bug"], excludeCommits := ["WIP", "(unclosed", "*"] }
    let included : Options := { o with excludeCommits := [] }
    ofOptions o = .error (.patternMalformed "exclude-commits" "(unclosed") ∧
    ofOptions { o with includeCommits := ["^fix", "[", "("] } =
      .error (.patternMalformed "include-commits" "[") ∧
    ∃ filter, ofOptions included = .ok filter ∧
      filter.included.firstMatch? "fix: bug" = some "^fix" ∧
      filter.included.firstMatch? "chore: bug" = some "bug" := by
  intro o included
  obtain ⟨filter, compiled⟩ :=
    (ofOptions_compiled_or_blamed included).1.2 (by decide +kernel)
  obtain ⟨-, set, -⟩ := (ofOptions_compiled_or_blamed included).2.2 filter compiled
  refine ⟨((ofOptions_compiled_or_blamed _).2.1 _).2 (.excluded (by decide +kernel) ?_),
    ((ofOptions_compiled_or_blamed _).2.1 _).2 (.included ?_), filter, compiled,
    (set.firstMatch?_iff _ _).2 ?_, (set.firstMatch?_iff _ _).2 ?_⟩
  · exact .later (by decide +kernel) (.here (by decide +kernel))
  · exact .later (by decide +kernel) (.here (by decide +kernel))
  · exact .here (by decide +kernel)
  · exact .later (by decide +kernel) (.here (by decide +kernel))

end Filter

end Commit

end PushNotice
