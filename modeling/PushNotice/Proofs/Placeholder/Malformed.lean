import PushNotice.Proofs.Placeholder.Dependence
import PushNotice.Proofs.Placeholder.Parts

/-!
# PushNotice.Proofs.Placeholder.Malformed

**Malformed placeholders.** With paths as expressions the only thing that can go wrong with a text
is a malformed expression, and whether an expression is malformed does not depend on the context.
So a text fails in one context exactly if it fails in all of them, because of its first malformed
placeholder (`render_eq_error_iff`), and the strings of a template that are left empty are known
before there is a context (`blankedFields_eq_malformedFields`).
-/

namespace PushNotice.Placeholder

/-! ### Texts -/

/-- What is wrong with an expression that is no path. -/
def flaw? (expression : String) : Option PlaceholderError :=
  match Path.parse expression with
  | .ok _ => none
  | .error error => some ⟨expression, error⟩

/-- The first malformed placeholder of a text, and what is wrong with it. -/
def malformed? (text : String) : Option PlaceholderError :=
  (expressionsOf text).findSome? flaw?

variable {context : Json}

theorem pathResolver_of_flaw {expression : String} {error : PathError}
    (h : Path.parse expression = .error error) :
    pathResolver context expression = .error error := by
  rw [pathResolver, h]

theorem fill_eq_error_iff {holes : List Hole} {error : PlaceholderError} :
    fill pathResolver context holes = .error error ↔
      (holes.map fun hole => String.ofList hole.expression).findSome? flaw? = some error := by
  induction holes with
  | nil => simp [fill]
  | cons hole holes ih =>
    rw [fill, List.map_cons, List.findSome?_cons, flaw?]
    cases parsed : Path.parse (String.ofList hole.expression) with
    | error cause => simp [pathResolver_of_flaw parsed]
    | ok path =>
      have resolved : pathResolver context (String.ofList hole.expression) =
          .ok (textAt context path) := by rw [pathResolver, parsed]
      simp only [resolved, ← ih]
      cases fill pathResolver context holes <;> simp

/-- **A text fails because of its first malformed placeholder,** in whatever context. -/
theorem render_eq_error_iff {text : String} {error : PlaceholderError} :
    render pathResolver context text = .error error ↔ malformed? text = some error := by
  rw [render_eq_renderParts, renderParts_eq _ (layout_partsOf text.toList), malformed?,
    expressionsOf, ← fill_eq_error_iff]
  cases fill pathResolver context (layout text.toList).holes <;> simp [Except.map]

/-! ### Templates -/

/-- The strings of a template that have a malformed placeholder, in document order, each with its
place and its first malformed placeholder. -/
def malformedFields (template : Json) : List BlankedField :=
  (template.leaves rootField).filterMap fun leaf =>
    (malformed? leaf.text).map fun cause => ⟨leaf.path, cause⟩

theorem blanked?_pathResolver (leaf : Json.Leaf) :
    blanked? pathResolver context leaf =
      (malformed? leaf.text).map fun cause => ⟨leaf.path, cause⟩ := by
  unfold blanked?
  cases rendered : render pathResolver context leaf.text with
  | error cause => rw [render_eq_error_iff.1 rendered, Option.map_some]
  | ok filled =>
    have sound : malformed? leaf.text = none := by
      refine Option.eq_none_iff_forall_ne_some.2 fun cause found => ?_
      simp [render_eq_error_iff.2 found] at rendered
    rw [sound, Option.map_none]

/-- **Which strings of a template are left empty does not depend on the context.** -/
theorem blankedFields_eq_malformedFields (template : Json) :
    blankedFields pathResolver context template = malformedFields template :=
  List.filterMap_congr fun leaf _ => blanked?_pathResolver leaf

end PushNotice.Placeholder
