import PushNotice.Options.Basic

/-!
# PushNotice.Proofs.Options.Layers

**Layers of inputs.** Options are eight fields, and inputs override each of them on its own: a
provided input decides its field alone, whatever was there, and all else leaves it as it is
(`value_apply`). So the laws of layers are laws of one field, and options are equal if all their
fields are (`ext_value`). Putting inputs over others that are already applied is the same as
applying both at once, the upper ones where they provide something and the lower ones elsewhere
(`apply_apply`).
-/

namespace PushNotice.Options

/-! ### Fields -/

/-- One of the options. -/
inductive Field where
  | template
  | message
  | webhook
  | lastCommitOnly
  | includeExtras
  | includeCommits
  | excludeCommits
  | embed
deriving DecidableEq, Repr

/-- What the value of an option is. -/
def Field.Value : Field → Type
  | .template => String
  | .message | .webhook | .embed => Option String
  | .lastCommitOnly | .includeExtras => Bool
  | .includeCommits | .excludeCommits => List String

/-- The value that an input gives to its option. -/
def Field.ofInput : (field : Field) → String → field.Value
  | .template => Text.trimmed
  | .message => some
  | .webhook => fun text => some (Text.trimmed text)
  | .lastCommitOnly | .includeExtras => flagOfInput
  | .includeCommits | .excludeCommits => linesOfInput
  | .embed => textOfInput?

/-- The value of an option. -/
def value (o : Options) : (field : Field) → field.Value
  | .template => o.template
  | .message => o.message
  | .webhook => o.webhook
  | .lastCommitOnly => o.lastCommitOnly
  | .includeExtras => o.includeExtras
  | .includeCommits => o.includeCommits
  | .excludeCommits => o.excludeCommits
  | .embed => o.embed

theorem ext_value {o o' : Options} (h : ∀ field, o.value field = o'.value field) : o = o' := by
  cases o
  cases o'
  rw [Options.mk.injEq]
  exact ⟨h .template, h .message, h .webhook, h .lastCommitOnly, h .includeExtras,
    h .includeCommits, h .excludeCommits, h .embed⟩

/-! ### Inputs -/

namespace Overrides

/-- The input for an option, if it is set. -/
def input (i : Overrides) : Field → Option String
  | .template => i.template
  | .message => i.message
  | .webhook => i.webhook
  | .lastCommitOnly => i.lastCommitOnly
  | .includeExtras => i.includeExtras
  | .includeCommits => i.includeCommits
  | .excludeCommits => i.excludeCommits
  | .embed => i.embed

/-- The inputs with a given one for each option. -/
def ofInputs (inputs : Field → Option String) : Overrides where
  template := inputs .template
  message := inputs .message
  webhook := inputs .webhook
  lastCommitOnly := inputs .lastCommitOnly
  includeExtras := inputs .includeExtras
  includeCommits := inputs .includeCommits
  excludeCommits := inputs .excludeCommits
  embed := inputs .embed

@[simp] theorem input_ofInputs (inputs : Field → Option String) (field : Field) :
    (ofInputs inputs).input field = inputs field := by
  cases field <;> rfl

/-- The inputs provide a text for an option: it is set, and not all of it is blank. -/
def Provides (i : Overrides) (field : Field) (text : String) : Prop :=
  i.input field = some text ∧ ∃ c ∈ text.toList, Text.isBlank c = false

/-- No option is provided by both. -/
def Disjoint (i j : Overrides) : Prop :=
  ∀ field text text', ¬ (i.Provides field text ∧ j.Provides field text')

/-- Inputs over others: for each option the upper input if it is provided, else the lower one. -/
def above (upper lower : Overrides) : Overrides :=
  ofInputs fun field =>
    if (provided (upper.input field)).isSome then upper.input field else lower.input field

/-- Inputs in layers, each over those before it. -/
def stack (layers : List Overrides) : Overrides :=
  layers.foldl (fun lower upper => upper.above lower) empty

theorem provided_input_eq_some_iff {i : Overrides} {field : Field} {text : String} :
    provided (i.input field) = some text ↔ i.Provides field text := by
  rw [provided, Option.filter_eq_some_iff, Provides, Text.isBlankText, Text.allBlank,
    Bool.not_eq_true', List.all_eq_false]
  simp only [Bool.not_eq_true]

theorem provided_input_eq_none_iff {i : Overrides} {field : Field} :
    provided (i.input field) = none ↔ ∀ text, ¬ i.Provides field text := by
  simp only [Option.eq_none_iff_forall_ne_some, ne_eq, provided_input_eq_some_iff]

end Overrides

/-! ### One field -/

section

variable {α : Type} {input : Option String} {ofText : String → α}

theorem overridden_of_some {text : String} (h : provided input = some text) (old : α) :
    overridden input ofText old = ofText text := by
  rw [overridden, h]

theorem overridden_of_none (h : provided input = none) (old : α) :
    overridden input ofText old = old := by
  rw [overridden, h]

end

/-- Inputs override each option on its own. -/
theorem value_apply (o : Options) (i : Overrides) (field : Field) :
    (o.apply i).value field = overridden (i.input field) field.ofInput (o.value field) := by
  cases field <;> rfl

/-! ### Layers -/

theorem apply_empty (o : Options) : o.apply .empty = o := by
  refine ext_value fun field => ?_
  have absent : Overrides.empty.input field = none := by cases field <;> rfl
  rw [value_apply, absent, overridden_of_none rfl]

theorem apply_idempotent (o : Options) (i : Overrides) : (o.apply i).apply i = o.apply i := by
  refine ext_value fun field => ?_
  rw [value_apply, value_apply]
  cases provision : provided (i.input field) with
  | none => rw [overridden_of_none provision]
  | some text => rw [overridden_of_some provision, overridden_of_some provision]

/-- **Two layers are one,** with the upper inputs over the lower ones. -/
theorem apply_apply (o : Options) (lower upper : Overrides) :
    (o.apply lower).apply upper = o.apply (upper.above lower) := by
  refine ext_value fun field => ?_
  rw [value_apply, value_apply, value_apply, Overrides.above, Overrides.input_ofInputs]
  cases provision : provided (upper.input field) with
  | none => rw [overridden_of_none provision, if_neg (by simp)]
  | some text => rw [overridden_of_some provision, if_pos (by simp), overridden_of_some provision]

theorem apply_comm_of_disjoint (o : Options) {i j : Overrides} (h : i.Disjoint j) :
    (o.apply i).apply j = (o.apply j).apply i := by
  refine ext_value fun field => ?_
  simp only [value_apply]
  cases ofI : provided (i.input field) with
  | none => rw [overridden_of_none ofI, overridden_of_none ofI]
  | some text =>
    -- What `i` provides, `j` does not.
    have ofJ : provided (j.input field) = none :=
      Overrides.provided_input_eq_none_iff.2 fun text' other =>
        h field text text' ⟨Overrides.provided_input_eq_some_iff.1 ofI, other⟩
    rw [overridden_of_none ofJ, overridden_of_none ofJ]

/-- **All layers are one.** -/
theorem foldl_apply (o : Options) (layers : List Overrides) :
    layers.foldl apply o = o.apply (.stack layers) := by
  -- By induction over the layers, from whatever inputs have been applied before.
  have from_below : ∀ below : Overrides, layers.foldl apply (o.apply below) =
      o.apply (layers.foldl (fun lower upper => upper.above lower) below) := by
    induction layers with
    | nil => exact fun _ => rfl
    | cons upper layers ih =>
      intro below
      rw [List.foldl_cons, List.foldl_cons, apply_apply, ih]
  rw [Overrides.stack, ← from_below, apply_empty]

/-- **Layers of inputs.** A provided input alone decides its option, and an option without one
keeps its value. Applying inputs again changes nothing, two layers are one with the upper inputs
over the lower ones, layers that provide different options may be exchanged, and all layers are
one. -/
theorem apply_layers :
    (∀ (o : Options) (i : Overrides) (field : Field),
      (∀ text, i.Provides field text → (o.apply i).value field = field.ofInput text) ∧
      ((∀ text, ¬ i.Provides field text) → (o.apply i).value field = o.value field)) ∧
    (∀ (o : Options) (i : Overrides), (o.apply i).apply i = o.apply i) ∧
    (∀ (o : Options) (lower upper : Overrides),
      (o.apply lower).apply upper = o.apply (upper.above lower)) ∧
    (∀ (o : Options) (i j : Overrides), i.Disjoint j →
      (o.apply i).apply j = (o.apply j).apply i) ∧
    (∀ (o : Options) (layers : List Overrides),
      layers.foldl apply o = o.apply (.stack layers)) := by
  refine ⟨fun o i field => ⟨fun text provision => ?_, fun missing => ?_⟩, apply_idempotent,
    apply_apply, fun o i j => apply_comm_of_disjoint o, foldl_apply⟩
  · rw [value_apply, overridden_of_some (Overrides.provided_input_eq_some_iff.2 provision)]
  · rw [value_apply, overridden_of_none (Overrides.provided_input_eq_none_iff.2 missing)]

/-- A name with blanks around it, and a name over it that is nothing but blanks. -/
theorem apply_layers_blank_name :
    let i : Overrides := { Overrides.empty with template := some " detailed\n" }
    let j : Overrides := { Overrides.empty with template := some " \u3000", embed := some "no" }
    i.Provides .template " detailed\n" ∧ (∀ text, ¬ j.Provides .template text) ∧ i.Disjoint j ∧
    (initial.apply i).value .template = Text.trimmed " detailed\n" ∧
    ((initial.apply i).apply j).value .template = (initial.apply i).value .template ∧
    (initial.apply i).apply j = (initial.apply j).apply i := by
  intro i j
  have provision : i.Provides .template " detailed\n" := ⟨rfl, 'd', by decide, by decide⟩
  have blank : ∀ text, ¬ j.Provides .template text :=
    Overrides.provided_input_eq_none_iff.1 (by decide +kernel)
  have disjoint : i.Disjoint j := by
    intro field text text' both
    cases field with
    | template => exact blank text' both.2
    | _ => exact absurd both.1.1 (by simp [i, Overrides.input, Overrides.empty])
  obtain ⟨fields, -, -, commute, -⟩ := apply_layers
  exact ⟨provision, blank, disjoint, (fields initial i .template).1 _ provision,
    (fields _ j .template).2 blank, commute initial i j disjoint⟩

end PushNotice.Options
