import Mathlib.Data.List.Basic
import PushNotice.Placeholder.Materialize

/-!
# PushNotice.Proofs.Placeholder.Dependence

**What filling in a template looks at.** A text, and a template with all its strings, is filled in
by asking the resolver for the expressions that stand in it, and for nothing else. So two contexts
in which those expressions resolve alike give the same text (`render_congr`), the same tree
(`materialize_congr`) and the same reports (`blankedFields_congr`). What the values are does not
matter, because no value is looked at again.
-/

namespace PushNotice.Json

variable {f g : String → String}

mutual

/-- A value with its strings replaced is the same for functions that agree on its strings. -/
theorem mapStrings_congr : ∀ (path : String) (j : Json),
    (∀ leaf ∈ j.leaves path, f leaf.text = g leaf.text) → j.mapStrings f = j.mapStrings g
  | path, .string s, h => congrArg Json.string (h ⟨path, s⟩ List.mem_cons_self)
  | path, .array items, h => by
      rw [mapStrings, mapStrings, mapStringsItems_congr path 0 items h]
  | path, .object members, h => by
      rw [mapStrings, mapStrings, mapStringsMembers_congr path members h]
  | _, .null, _ => rfl
  | _, .bool _, _ => rfl
  | _, .number _, _ => rfl

theorem mapStringsItems_congr : ∀ (path : String) (index : Nat) (items : List Json),
    (∀ leaf ∈ leavesItems path index items, f leaf.text = g leaf.text) →
      mapStringsItems f items = mapStringsItems g items
  | _, _, [], _ => rfl
  | path, index, item :: rest, h => by
      rw [leavesItems, List.forall_mem_append] at h
      rw [mapStringsItems, mapStringsItems, mapStrings_congr _ item h.1,
        mapStringsItems_congr path (index + 1) rest h.2]

theorem mapStringsMembers_congr : ∀ (path : String) (members : Members),
    (∀ leaf ∈ leavesMembers path members, f leaf.text = g leaf.text) →
      mapStringsMembers f members = mapStringsMembers g members
  | _, [], _ => rfl
  | path, (key, value) :: rest, h => by
      rw [leavesMembers, List.forall_mem_append] at h
      rw [mapStringsMembers, mapStringsMembers, mapStrings_congr _ value h.1,
        mapStringsMembers_congr path rest h.2]

end

end PushNotice.Json

namespace PushNotice.Placeholder

/-! ### Expressions -/

/-- The expressions of a text, as rendering delimits them. -/
def expressionsOf (text : String) : List String :=
  (layout text.toList).holes.map fun hole => String.ofList hole.expression

/-- The expressions in the strings of a template. -/
def expressionsIn (template : Json) : List String :=
  (template.leaves rootField).flatMap fun leaf => expressionsOf leaf.text

theorem expressionsIn_string (text : String) :
    expressionsIn (.string text) = expressionsOf text := by
  simp [expressionsIn, Json.leaves]

/-! ### Agreement -/

section

variable {resolve : Resolver} {context context' : Json}

theorem fill_congr {holes : List Hole}
    (h : ∀ hole ∈ holes, resolve context (String.ofList hole.expression) =
      resolve context' (String.ofList hole.expression)) :
    fill resolve context holes = fill resolve context' holes := by
  induction holes with
  | nil => rfl
  | cons hole holes ih =>
    obtain ⟨first, rest⟩ := List.forall_mem_cons.1 h
    rw [fill, fill, first, ih rest]

/-- Only the expressions of a text have an effect on what it is rendered as. -/
theorem render_congr {text : String}
    (h : ∀ expression ∈ expressionsOf text,
      resolve context expression = resolve context' expression) :
    render resolve context text = render resolve context' text := by
  have filled : fill resolve context (layout text.toList).holes =
      fill resolve context' (layout text.toList).holes :=
    fill_congr fun hole mem => h _ (List.mem_map.2 ⟨hole, mem, rfl⟩)
  unfold render renderParts
  dsimp only
  rw [filled]

variable {template : Json}

theorem render_congr_of_mem_leaves
    (h : ∀ expression ∈ expressionsIn template,
      resolve context expression = resolve context' expression) :
    ∀ leaf ∈ template.leaves rootField,
      render resolve context leaf.text = render resolve context' leaf.text := by
  intro leaf mem
  refine render_congr fun expression found => h expression ?_
  exact List.mem_flatMap.2 ⟨leaf, mem, found⟩

/-- Only the expressions of a template have an effect on what it is filled in as. -/
theorem materialize_congr
    (h : ∀ expression ∈ expressionsIn template,
      resolve context expression = resolve context' expression) :
    materialize resolve context template = materialize resolve context' template := by
  refine Json.mapStrings_congr rootField template fun leaf mem => ?_
  unfold renderOrEmpty
  rw [render_congr_of_mem_leaves h leaf mem]

theorem blankedFields_congr
    (h : ∀ expression ∈ expressionsIn template,
      resolve context expression = resolve context' expression) :
    blankedFields resolve context template = blankedFields resolve context' template := by
  refine List.filterMap_congr fun leaf mem => ?_
  unfold blanked?
  rw [render_congr_of_mem_leaves h leaf mem]

end

end PushNotice.Placeholder
