import PushNotice.Notice
import PushNotice.Options.Yaml
import PushNotice.Proofs.Yaml.Record

/-!
# PushNotice.Proofs.Options.Reachable

**Options that come about.** Options are set back to their defaults, read from a text or overridden
by inputs, in any order. Whatever the steps, the template has a name and no pattern is empty or has
blanks around it (`sound_reached`): all roads by which a pattern comes in trim it, and a text whose
options have no name for the template is refused. So only an embed that is no JSON text makes
reachable options invalid, and valid options give a design for every template.
-/

namespace PushNotice.Options

/-! ### Steps -/

/-- A step by which options change. -/
inductive Step where
  /-- The options are set back to their defaults. -/
  | reset
  /-- The options are read from a text; they stay as they are if that fails. -/
  | read (text : String)
  /-- Inputs override the options. -/
  | override (inputs : Overrides)

/-- The options after a step. -/
def after (o : Options) : Step → Options
  | .reset => initial
  | .read text =>
    match ofYaml text with
    | .ok read => read
    | .error _ => o
  | .override inputs => o.apply inputs

/-- The options that steps lead to from the defaults. -/
def reached (steps : List Step) : Options :=
  steps.foldl after initial

/-! ### What the options keep -/

/-- A pattern as options hold it: not empty, and without blanks around it. -/
def IsPattern (pattern : String) : Prop :=
  pattern ≠ "" ∧ Text.trimmed pattern = pattern

/-- The patterns of the options are not empty and have no blanks around them. -/
structure PatternsTrimmed (o : Options) : Prop where
  includes : ∀ pattern ∈ o.includeCommits, IsPattern pattern
  excludes : ∀ pattern ∈ o.excludeCommits, IsPattern pattern

/-- What all reachable options are like. -/
structure Sound (o : Options) : Prop extends PatternsTrimmed o where
  named : Text.isBlankText o.template = false

/-! ### Patterns -/

theorem isPattern_of_mem_linesOfInput {input pattern : String}
    (h : pattern ∈ linesOfInput input) : IsPattern pattern :=
  Text.of_mem_trimmedLines h

theorem isPattern_of_mem_patternsOfItems {items : List Json} {patterns : List String}
    (read : patternsOfItems items = .ok patterns) {pattern : String} (h : pattern ∈ patterns) :
    IsPattern pattern := by
  obtain ⟨texts, -, kept⟩ := bind_eq_ok_iff.1 read
  obtain rfl := Except.ok.inj kept
  obtain ⟨trimmed, solid⟩ := List.mem_filter.1 h
  obtain ⟨text, -, ofText⟩ := List.mem_filterMap.1 trimmed
  obtain ⟨whole, -, rfl⟩ := Option.map_eq_some_iff.1 ofText
  exact ⟨by simpa using solid, Text.trimmed_trimmed whole⟩

theorem isPattern_of_mem_patternsOfValue {value : Json} {patterns : List String}
    (read : patternsOfValue value = .ok patterns) {pattern : String} (h : pattern ∈ patterns) :
    IsPattern pattern := by
  unfold patternsOfValue at read
  split at read
  · cases read
    cases h
  · exact isPattern_of_mem_patternsOfItems read h
  · cases read
    exact isPattern_of_mem_linesOfInput h
  · obtain ⟨text, -, lines⟩ := bind_eq_ok_iff.1 read
    obtain rfl := Except.ok.inj lines
    cases text with
    | none => cases h
    | some text => exact isPattern_of_mem_linesOfInput h

/-! ### Files -/

theorem gives_valueField {α : Type} {P : Options → Prop} {anchors : Yaml.Anchors}
    {ofValue : Json → Except Flaw α} {put : α → Options → Options} {node : Yaml.Node} {o : Options}
    (h : ∀ value a, ofValue value = .ok a → P (put a o)) :
    Yaml.Gives P (valueField anchors ofValue put node o) :=
  (Yaml.Gives.of_true _).bind fun value _ =>
    (Yaml.gives_lift (ofValue value)).bind fun a read => .pure (h value a read)

/-- Every field of a file keeps the patterns trimmed. -/
theorem patternsTrimmed_keptBy : Yaml.KeptBy PatternsTrimmed fieldReaders := by
  intro anchors name reader found node o h
  unfold fieldReaders at found
  split at found
  case h_1 | h_2 | h_3 =>
    obtain rfl := Option.some.inj found
    exact (Yaml.Gives.of_true _).bind fun _ _ => .pure ⟨h.includes, h.excludes⟩
  case h_4 | h_5 | h_8 =>
    obtain rfl := Option.some.inj found
    exact gives_valueField fun _ _ _ => ⟨h.includes, h.excludes⟩
  case h_6 =>
    obtain rfl := Option.some.inj found
    exact gives_valueField fun _ _ read =>
      ⟨fun _ => isPattern_of_mem_patternsOfValue read, h.excludes⟩
  case h_7 =>
    obtain rfl := Option.some.inj found
    exact gives_valueField fun _ _ read =>
      ⟨h.includes, fun _ => isPattern_of_mem_patternsOfValue read⟩
  case h_9 => cases found

theorem sound_initial : initial.Sound where
  includes := by simp [initial]
  excludes := by simp [initial]
  named := by decide

theorem patternsTrimmed_of_readYaml {text : String} {o : Options} (h : readYaml text = .ok o) :
    o.PatternsTrimmed := by
  unfold readYaml at h
  split at h
  · cases h
    exact sound_initial.toPatternsTrimmed
  · obtain ⟨record, trimmed, finished⟩ :=
      Yaml.readRecord_eq_ok patternsTrimmed_keptBy sound_initial.toPatternsTrimmed h
    cases finished
    exact trimmed

theorem sound_of_ofYaml {text : String} {o : Options} (h : ofYaml text = .ok o) : o.Sound := by
  obtain ⟨o', read, valid⟩ := bind_eq_ok_iff.1 h
  obtain ⟨⟨⟩, checked, same⟩ := bind_eq_ok_iff.1 valid
  obtain rfl := Except.ok.inj same
  have described : readYaml text = .ok o' := by
    cases described : readYaml text with
    | error flaw => rw [described] at read; cases read
    | ok o => rw [described] at read; cases read; rfl
  exact ⟨patternsTrimmed_of_readYaml described, (validate_eq_ok_iff.1 checked).1⟩

/-! ### Inputs -/

/-- What an option has after an input, if every provided input gives it and it was there before. -/
theorem overridden_has {α : Type} {P : α → Prop} {input : Option String} {ofText : String → α}
    {old : α} (given : ∀ text, Text.isBlankText text = false → P (ofText text)) (h : P old) :
    P (overridden input ofText old) := by
  unfold overridden
  split
  · next text provision =>
    exact given text (by simpa using (Option.filter_eq_some_iff.1 provision).2)
  · exact h

theorem overridden_linesOfInput {input : Option String} {old : List String}
    (h : ∀ pattern ∈ old, IsPattern pattern) :
    ∀ pattern ∈ overridden input linesOfInput old, IsPattern pattern :=
  overridden_has (P := fun patterns => ∀ pattern ∈ patterns, IsPattern pattern)
    (fun _ _ _ => isPattern_of_mem_linesOfInput) h

theorem Sound.apply {o : Options} (h : o.Sound) (i : Overrides) : (o.apply i).Sound where
  includes := overridden_linesOfInput h.includes
  excludes := overridden_linesOfInput h.excludes
  named := overridden_has (P := fun name => Text.isBlankText name = false)
    (fun text solid => by rwa [Text.isBlankText_trimmed]) h.named

/-! ### All steps -/

theorem Sound.after {o : Options} (h : o.Sound) (step : Step) : (o.after step).Sound := by
  cases step with
  | reset => exact sound_initial
  | read text =>
    rw [Options.after]
    cases read : ofYaml text with
    | ok o' => exact sound_of_ofYaml read
    | error fault => exact h
  | override inputs => exact h.apply inputs

/-- The steps keep the options sound, one after the other. -/
theorem sound_reached (steps : List Step) : (reached steps).Sound := by
  have from_sound : ∀ o : Options, o.Sound → (steps.foldl Options.after o).Sound := by
    induction steps with
    | nil => exact fun _ h => h
    | cons step steps ih => exact fun o h => ih _ (h.after step)
  exact from_sound initial sound_initial

/-! ### Valid options -/

/-- Nothing but its embed makes sound options invalid. -/
theorem Sound.validate_eq_error_iff {o : Options} (h : o.Sound) {fault : Fault} :
    o.validate = .error fault ↔
      fault = .embedNotJson ∧ ∃ text, o.embed = some text ∧ Json.ofText? text = none := by
  rw [← embedTemplate_eq_error_iff, validate, if_neg (by simp [h.named])]
  cases o.embedTemplate <;> simp [Except.map]

/-- **Options that come about.** Whatever the steps, the template has a name, and no pattern is
empty or has blanks around it. The options are invalid if and only if an embed is given that is no
JSON text, and valid options give a design for every template. -/
theorem reached_options (steps : List Step) :
    let o := reached steps
    (∃ c ∈ o.template.toList, Text.isBlank c = false) ∧
    (∀ pattern ∈ o.includeCommits, pattern ≠ "" ∧ Text.trimmed pattern = pattern) ∧
    (∀ pattern ∈ o.excludeCommits, pattern ≠ "" ∧ Text.trimmed pattern = pattern) ∧
    ((∃ fault, o.validate = .error fault) ↔
      ∃ text, o.embed = some text ∧ Json.ofText? text = none) ∧
    (o.validate = .ok () →
      ∀ template, ∃ design, Notice.Design.ofTemplate template o = .ok design) := by
  intro o
  have sound : o.Sound := sound_reached steps
  refine ⟨?_, sound.includes, sound.excludes, ?_, Notice.design_of_valid⟩
  · simpa [Text.isBlankText, Text.allBlank] using sound.named
  · simp only [sound.validate_eq_error_iff, exists_and_right, exists_eq, true_and]

/-- A list of patterns and lines of patterns lose their blanks and blank entries, a text without a
name for the template changes nothing, and an embed that stops too early makes the options
invalid. -/
theorem reached_options_mixed :
    let steps : List Step :=
      [.read "template: brief\ninclude-commits:\n- ' ^fix '\n- ' '\n- 7\n",
        .override { Overrides.empty with
          template := some " detailed\n", excludeCommits := some " wip \n\n",
          embed := some "\x7b\x7d" },
        .read "template: ' '"]
    let o := reached steps
    o.template = "detailed" ∧ o.includeCommits = ["^fix", "7"] ∧ o.excludeCommits = ["wip"] ∧
    Text.trimmed "^fix" = "^fix" ∧ o.validate = .ok () ∧
    (∃ design, Notice.Design.ofTemplate .plain o = .ok design) ∧
    ∃ fault, (reached [.override { Overrides.empty with embed := some "\x7b" }]).validate =
      .error fault := by
  intro steps o
  have name : o.template = "detailed" := by decide +kernel
  have includes : o.includeCommits = ["^fix", "7"] := by decide +kernel
  have embed : o.embed = some "\x7b\x7d" := by decide +kernel
  have valid : o.validate = .ok () :=
    validate_eq_ok_iff.2 ⟨by decide +kernel, some (.object []), by
      rw [embedTemplate, embed]; rfl⟩
  obtain ⟨-, trimmed, -, -, designs⟩ := reached_options steps
  have mem : "^fix" ∈ o.includeCommits := by rw [includes]; exact List.mem_cons_self
  exact ⟨name, includes, by decide +kernel, (trimmed "^fix" mem).2, valid, designs valid .plain,
    (reached_options _).2.2.2.1.2 ⟨"\x7b", by decide +kernel⟩⟩

end PushNotice.Options
