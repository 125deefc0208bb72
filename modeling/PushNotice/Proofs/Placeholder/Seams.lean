import PushNotice.Notice
import PushNotice.Proofs.Json.Shape
import PushNotice.Proofs.Placeholder.Dependence
import PushNotice.Proofs.Placeholder.Parts

/-!
# PushNotice.Proofs.Placeholder.Seams

**No placeholder arises where values are put in.** A value that neither holds an opening mark nor
ends with half of one (`Inert`) opens nothing, whatever literal text or value stands next to it: the
literal text in front of a placeholder does not end with half a mark either, because the scanner
would have opened the placeholder earlier. So all that is filled in, up to the last placeholder, is
free of opening marks (`firstAtEnd_fill`), and the text behind it was already searched in vain.

A filled-in template without placeholders is a fixed point of filling in
(`materialize_of_no_placeholder`), for any resolver and in any context.
-/

namespace PushNotice.Placeholder

/-- The value holds no opening mark and does not end with half of one. -/
def Inert (value : String) : Prop :=
  ¬ openMark <:+: value.toList ∧ value.toList.getLast? ≠ some '\x7b'

theorem Inert.firstAtEnd {value : String} (h : Inert value) :
    Text.FirstAtEnd openMark value.toList :=
  Text.firstAtEnd_pair_iff.2 h

section Texts

variable {resolve : Resolver} {context : Json}

/-! ### Texts -/

/-- A placeholder of two texts in a row lies in the second one, if the first is such that an opening
mark behind it would be the first one. -/
theorem not_holdsPlaceholder_append {front tail : List Char}
    (h : Text.FirstAtEnd openMark front) (h' : ¬ HoldsPlaceholder tail) :
    ¬ HoldsPlaceholder (front ++ tail) := by
  rintro ⟨before, inside, after, whole⟩
  have split : front ++ tail = before ++ openMark ++ (inside ++ closeMark ++ after) := by
    simp [whole]
  obtain ⟨between, tail_eq⟩ := h.split_append split
  exact h' ⟨between, inside, after, by simp [openMark, tail_eq]⟩

theorem not_holdsPlaceholder_nil : ¬ HoldsPlaceholder [] := by
  rintro ⟨before, inside, after, whole⟩
  simp [openMark] at whole

/-- **Literal parts and inert values open nothing together**, however short they are. -/
theorem firstAtEnd_fill {holes : List Hole} {filled : List Char}
    (opened : ∀ hole ∈ holes, Text.FirstAtEnd openMark hole.literal)
    (inert : ∀ hole ∈ holes, ∀ value,
      resolve context (String.ofList hole.expression) = .ok value → Inert value)
    (h : fill resolve context holes = .ok filled) : Text.FirstAtEnd openMark filled := by
  induction holes generalizing filled with
  | nil =>
    obtain rfl := Except.ok.inj h
    exact Text.firstAtEnd_nil openMark
  | cons hole holes ih =>
    obtain ⟨literal, openedRest⟩ := List.forall_mem_cons.1 opened
    obtain ⟨first, inertRest⟩ := List.forall_mem_cons.1 inert
    rw [fill] at h
    split at h
    · simp at h
    · next value resolved =>
      split at h
      · simp at h
      · next rest filledRest =>
        obtain rfl := Except.ok.inj h
        have behind := ih openedRest inertRest filledRest
        exact (literal.append (first value resolved).firstAtEnd).append behind

/-- **A text with inert values in it has no placeholder left**, nor has one that was left empty. -/
theorem not_holdsPlaceholder_renderOrEmpty {text : String}
    (inert : ∀ expression ∈ expressionsOf text, ∀ value,
      resolve context expression = .ok value → Inert value) :
    ¬ HoldsPlaceholder (renderOrEmpty resolve context text).toList := by
  have parts := layout_partsOf text.toList
  unfold renderOrEmpty
  rw [render_eq_renderParts, renderParts_eq _ parts]
  cases filled : fill resolve context (layout text.toList).holes with
  | error cause => exact not_holdsPlaceholder_nil
  | ok front =>
    have inertHoles : ∀ hole ∈ (layout text.toList).holes, ∀ value,
        resolve context (String.ofList hole.expression) = .ok value → Inert value :=
      fun hole mem => inert _ (List.mem_map.2 ⟨hole, mem, rfl⟩)
    have opensNothing := firstAtEnd_fill parts.opened inertHoles filled
    simpa [Except.map] using not_holdsPlaceholder_append opensNothing parts.rest

theorem render_of_no_placeholder {text : String} (h : ¬ HoldsPlaceholder text.toList) :
    render resolve context text = .ok text := by
  rw [render_eq_renderParts, renderParts_of_no_placeholder h]

/-! ### Templates -/

/-- No string of the template has a placeholder. -/
def IsLiteral (template : Json) : Prop :=
  ∀ leaf ∈ template.leaves rootField, ¬ HoldsPlaceholder leaf.text.toList

/-- **A template without placeholders is filled in as itself.** -/
theorem materialize_of_no_placeholder {template : Json} (h : IsLiteral template) :
    materialize resolve context template = template := by
  have untouched : ∀ leaf ∈ template.leaves rootField,
      renderOrEmpty resolve context leaf.text = id leaf.text := by
    intro leaf mem
    rw [renderOrEmpty, render_of_no_placeholder (h leaf mem), id]
  rw [materialize, Json.mapStrings_congr rootField template untouched, Json.mapStrings_id]

theorem blankedFields_of_no_placeholder {template : Json} (h : IsLiteral template) :
    blankedFields resolve context template = [] := by
  refine List.filterMap_eq_nil_iff.2 fun leaf mem => ?_
  rw [blanked?, render_of_no_placeholder (h leaf mem)]

/-- Filling in with inert values leaves no placeholder. -/
theorem isLiteral_materialize {template : Json}
    (inert : ∀ expression ∈ expressionsIn template, ∀ value,
      resolve context expression = .ok value → Inert value) :
    IsLiteral (materialize resolve context template) := by
  intro leaf mem
  rw [materialize, Json.leaves_mapStrings] at mem
  obtain ⟨source, found, rfl⟩ := List.mem_map.1 mem
  refine not_holdsPlaceholder_renderOrEmpty fun expression within => inert expression ?_
  exact List.mem_flatMap.2 ⟨source, found, within⟩

end Texts

/-- **A filled-in template is settled.** If no value for a placeholder of the template holds an
opening mark or ends with half of one, filling in what came out once more changes nothing and warns
of nothing, with whatever resolver and context. -/
theorem materialize_settled (resolve : Resolver) (context template : Json)
    (inert : ∀ expression ∈ expressionsIn template, ∀ value,
      resolve context expression = .ok value → Inert value)
    (resolve' : Resolver) (context' : Json) :
    materialize resolve' context' (materialize resolve context template) =
      materialize resolve context template ∧
    Notice.blankedEvents resolve' context' (materialize resolve context template) = [] := by
  have literal := isLiteral_materialize inert
  refine ⟨materialize_of_no_placeholder literal, ?_⟩
  rw [Notice.blankedEvents, blankedFields_of_no_placeholder literal, List.map_nil]

/-- Single marks on both sides of values, one of them empty, an opening mark that is never closed,
and a string that was left empty. -/
theorem materialize_settled_single_marks :
    let context := Json.object [("a", .string "\x7b\x7d"), ("b", .null)]
    let template := Json.array [
      .string "\x7b x\x7b\x7ba\x7d\x7d\x7b\x7bb\x7d\x7d\x7b \x7d\x7b\x7b a",
      .string "\x7b\x7b.\x7d\x7d"]
    let filled := materialize pathResolver context template
    (∀ expression ∈ expressionsIn template, ∀ value,
      pathResolver context expression = .ok value → Inert value) ∧
    filled = .array [.string "\x7b x\x7b\x7d\x7b \x7d\x7b\x7b a", .string ""] ∧
    materialize pathResolver (.object [("a", .string "other")]) filled = filled ∧
    Notice.blankedEvents pathResolver (.object [("a", .string "other")]) filled = [] := by
  intro context template filled
  have expressions : expressionsIn template = ["a", "b", "."] := by decide +kernel
  have inert : ∀ expression ∈ expressionsIn template, ∀ value,
      pathResolver context expression = .ok value → Inert value := by
    have valueA : pathResolver context "a" = .ok "\x7b\x7d" := by decide +kernel
    have valueB : pathResolver context "b" = .ok "" := by decide +kernel
    have noValue : pathResolver context "." = .error (.emptySegment 0) := by decide +kernel
    simp only [expressions, List.forall_mem_cons, valueA, valueB, noValue, Except.ok.injEq,
      forall_eq', reduceCtorEq, false_implies, implies_true]
    refine ⟨?_, ?_, by simp⟩ <;> unfold Inert <;> decide
  refine ⟨inert, ?_, materialize_settled pathResolver context template inert pathResolver _⟩
  have first : renderOrEmpty pathResolver context
      "\x7b x\x7b\x7ba\x7d\x7d\x7b\x7bb\x7d\x7d\x7b \x7d\x7b\x7b a" =
        "\x7b x\x7b\x7d\x7b \x7d\x7b\x7b a" := by decide +kernel
  have second : renderOrEmpty pathResolver context "\x7b\x7b.\x7d\x7d" = "" := by decide +kernel
  simp only [filled, template, materialize, Json.mapStrings, Json.mapStringsItems, first, second]

end PushNotice.Placeholder
