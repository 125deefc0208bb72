import PushNotice.Options.Yaml
import PushNotice.Proofs.Text.Lines

/-!
# PushNotice.Proofs.Options.Settings

**Options that files and inputs set.** Five of the options may be set by a value of any type in a
file as well as by an input. A `Setting` is such an option: its name in files, what is made of a value
and of an input, and where the result is put. That the readers of files and inputs do just this is
part of it, so that a law of settings is a law of all five options. A value and an input do the same
if the same is made of them, and then a blank input needs no care: what is made of it is what the
option has without any input (`Setting.fieldGives_of_ofValue`).
-/

namespace PushNotice

/-- A value that holds no others, and its plain text. That of null is empty, and that of a string is
the string itself. -/
inductive Json.HasPlainText : Json → String → Prop where
  | null : HasPlainText .null ""
  | bool (b : Bool) : HasPlainText (.bool b) (if b then "true" else "false")
  | number (n : Json.Number) : HasPlainText (.number n) (String.ofList n.text)
  | string (s : String) : HasPlainText (.string s) s

namespace Options

/-! ### Fields of a file -/

/-- A field with this name and value makes the result of the options, from whatever node the value
is read. -/
def FieldGives (name : String) (value : Json) (o : Options) (result : Except Flaw Options) : Prop :=
  ∀ anchors, ∃ reader, fieldReaders anchors name = some reader ∧
    ∀ node left left',
      (Yaml.readValue anchors Yaml.fieldDepth node).run left = .ok (value, left') →
      (reader node o).run left = result.map (·, left')

/-- There is one result, if the value can be read at all. -/
theorem FieldGives.unique {name : String} {value : Json} {o : Options}
    {result result' : Except Flaw Options} {anchors : Yaml.Anchors} {node : Yaml.Node}
    {left left' : Nat}
    (read : (Yaml.readValue anchors Yaml.fieldDepth node).run left = .ok (value, left'))
    (h : FieldGives name value o result) (h' : FieldGives name value o result') :
    result = result' := by
  obtain ⟨reader, named, gives⟩ := h anchors
  obtain ⟨_, named', gives'⟩ := h' anchors
  cases named.symm.trans named'
  have same : result.map (·, left') = result'.map (·, left') :=
    (gives node left left' read).symm.trans (gives' node left left' read)
  rcases result with flaw | given <;> rcases result' with flaw' | given' <;> cases same <;> rfl

theorem run_valueField {α : Type} {anchors : Yaml.Anchors} {node : Yaml.Node} {left left' : Nat}
    {value : Json}
    (read : (Yaml.readValue anchors Yaml.fieldDepth node).run left = .ok (value, left'))
    (ofValue : Json → Except Flaw α) (put : α → Options → Options) (o : Options) :
    (valueField anchors ofValue put node o).run left =
      ((ofValue value).map (put · o)).map (·, left') := by
  rw [valueField, StateT.run_bind, read]
  change ((liftM (ofValue value) : Yaml.Reading α) >>= fun a => pure (put a o)).run left' = _
  cases ofValue value <;> rfl

/-! ### Settings -/

/-- An option that is set by a value in a file or by an input. -/
structure Setting (α : Type) where
  /-- What the field is called in a file. -/
  name : String
  /-- What is made of a value in a file. -/
  ofValue : Json → Except Flaw α
  /-- What is made of an input. -/
  ofInput : String → α
  get : Options → α
  put : α → Options → Options
  /-- The inputs of which only that for the option is set. -/
  input : String → Overrides
  fieldReaders_name : ∀ anchors, fieldReaders anchors name = some (valueField anchors ofValue put)
  apply_input : ∀ o text,
    o.apply (input text) = put (overridden (some text) ofInput (get o)) o
  ofInput_blank : ∀ text, Text.isBlankText text = true → ofInput text = get initial

theorem isOff_of_blank {text : String} (blank : Text.isBlankText text = true) :
    isOff text = true := by
  rw [isOff, Text.trimmed_eq_empty_iff.2 blank]
  decide +kernel

theorem flagOfInput_blank (text : String) (blank : Text.isBlankText text = true) :
    flagOfInput text = false := by
  rw [flagOfInput, isOff_of_blank blank]
  rfl

namespace Setting

/-- Only the last commit of the push counts. -/
def lastCommitOnly : Setting Bool where
  name := "last-commit-only"
  ofValue := flagOfValue
  ofInput := flagOfInput
  get := Options.lastCommitOnly
  put flag o := { o with lastCommitOnly := flag }
  input text := { Overrides.empty with lastCommitOnly := some text }
  fieldReaders_name _ := rfl
  apply_input _ _ := rfl
  ofInput_blank := flagOfInput_blank

/-- The extra embeds of the template are added. -/
def includeExtras : Setting Bool where
  name := "include-extras"
  ofValue := flagOfValue
  ofInput := flagOfInput
  get := Options.includeExtras
  put flag o := { o with includeExtras := flag }
  input text := { Overrides.empty with includeExtras := some text }
  fieldReaders_name _ := rfl
  apply_input _ _ := rfl
  ofInput_blank := flagOfInput_blank

/-- Patterns of which one has to be found in the message of a commit, if there are any. -/
def includeCommits : Setting (List String) where
  name := "include-commits"
  ofValue := patternsOfValue
  ofInput := linesOfInput
  get := Options.includeCommits
  put patterns o := { o with includeCommits := patterns }
  input text := { Overrides.empty with includeCommits := some text }
  fieldReaders_name _ := rfl
  apply_input _ _ := rfl
  ofInput_blank _ := Text.trimmedLines_of_blank

/-- Patterns of which none may be found in the message of a commit. -/
def excludeCommits : Setting (List String) where
  name := "exclude-commits"
  ofValue := patternsOfValue
  ofInput := linesOfInput
  get := Options.excludeCommits
  put patterns o := { o with excludeCommits := patterns }
  input text := { Overrides.empty with excludeCommits := some text }
  fieldReaders_name _ := rfl
  apply_input _ _ := rfl
  ofInput_blank _ := Text.trimmedLines_of_blank

/-- The settings that are flags. -/
def flags : List (Setting Bool) := [lastCommitOnly, includeExtras]

/-- The settings that are lists of patterns. -/
def patternLists : List (Setting (List String)) := [includeCommits, excludeCommits]

theorem of_mem_flags {flag : Setting Bool} (h : flag ∈ flags) :
    flag.ofValue = flagOfValue ∧ flag.ofInput = flagOfInput := by
  simp only [flags, List.mem_cons, List.not_mem_nil, or_false] at h
  rcases h with rfl | rfl <;> exact ⟨rfl, rfl⟩

theorem of_mem_patternLists {patterns : Setting (List String)} (h : patterns ∈ patternLists) :
    patterns.ofValue = patternsOfValue ∧ patterns.ofInput = linesOfInput := by
  simp only [patternLists, List.mem_cons, List.not_mem_nil, or_false] at h
  rcases h with rfl | rfl <;> exact ⟨rfl, rfl⟩

/-- The embed as JSON text, in the place of that of the template. -/
def embed : Setting (Option String) where
  name := "embed"
  ofValue value := .ok (embedOfValue value)
  ofInput := textOfInput?
  get := Options.embed
  put text o := { o with embed := text }
  input text := { Overrides.empty with embed := some text }
  fieldReaders_name _ := rfl
  apply_input _ _ := rfl
  ofInput_blank _ blank := if_pos (isOff_of_blank blank)

variable {α : Type} (s : Setting α)

/-- What a file gives is what is made of the value. -/
theorem fieldGives (value : Json) (o : Options) :
    FieldGives s.name value o ((s.ofValue value).map (s.put · o)) :=
  fun anchors => ⟨_, s.fieldReaders_name anchors, fun _ _ _ read => run_valueField read _ _ o⟩

/-- An input over no other is put as it is, blank or not. -/
theorem apply_input_initial (text : String) :
    initial.apply (s.input text) = s.put (s.ofInput text) initial := by
  rw [s.apply_input, overridden, provided, Option.filter_some]
  cases blank : Text.isBlankText text with
  | false => rfl
  | true => rw [s.ofInput_blank text blank]; rfl

/-- **A value and an input do the same** if the same is made of them. -/
theorem fieldGives_of_ofValue {value : Json} {text : String}
    (same : s.ofValue value = .ok (s.ofInput text)) :
    FieldGives s.name value initial (.ok (initial.apply (s.input text))) := by
  have given := s.fieldGives value initial
  rwa [same, Except.map, ← s.apply_input_initial] at given

/-- What is no value of a setting makes a file malformed. -/
theorem fieldGives_of_error {value : Json} {flaw : Flaw} (refused : s.ofValue value = .error flaw)
    (o : Options) : FieldGives s.name value o (.error flaw) := by
  have given := s.fieldGives value o
  rwa [refused] at given

end Setting

end Options

end PushNotice
