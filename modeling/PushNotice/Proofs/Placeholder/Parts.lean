import Mathlib.Data.List.Forall2
import PushNotice.Placeholder.Text

/-!
# PushNotice.Proofs.Placeholder.Parts

**The parts of a text.** A text falls into literal parts and expressions in one way only, if every
literal part ends at the first opening mark, every expression at the first closing mark, and no
placeholder is left in the last part (`Layout.PartsOf`). `layout` finds these parts
(`layout_partsOf`), and nothing else is one (`Layout.PartsOf.eq_layout`).

What a text is rendered as is then said on its parts alone: the literal parts with the values
between them, or the error of the first expression that has no value.
-/

namespace PushNotice.Placeholder

/-! ### Parts -/

/-- Somewhere in the text a mark is opened and later closed. -/
def HoldsPlaceholder (cs : List Char) : Prop :=
  ∃ before inside after, cs = before ++ openMark ++ inside ++ closeMark ++ after

/-- A placeholder as it is written, behind its literal text. -/
def Hole.text (hole : Hole) : List Char :=
  hole.literal ++ openMark ++ hole.expression ++ closeMark

/-- The text that the parts make up. -/
def Layout.text (l : Layout) : List Char :=
  l.holes.flatMap Hole.text ++ l.tail

/-- The parts of a text: no mark stands earlier than where a part ends because of it, and the last
part has no placeholder. -/
structure Layout.PartsOf (l : Layout) (cs : List Char) : Prop where
  whole : l.text = cs
  opened : ∀ hole ∈ l.holes, Text.FirstAtEnd openMark hole.literal
  closed : ∀ hole ∈ l.holes, Text.FirstAtEnd closeMark hole.expression
  rest : ¬ HoldsPlaceholder l.tail

/-! ### The first placeholder -/

theorem firstHole?_eq_some_iff {cs rest : List Char} {hole : Hole} :
    firstHole? cs = some (hole, rest) ↔
      cs = hole.text ++ rest ∧ Text.FirstAtEnd openMark hole.literal ∧
        Text.FirstAtEnd closeMark hole.expression := by
  constructor
  · intro h
    unfold firstHole? at h
    split at h
    · simp at h
    · next literal inside opened =>
      split at h
      · simp at h
      · next expression after closed =>
        simp only [Option.some.injEq, Prod.mk.injEq] at h
        obtain ⟨rfl, rfl⟩ := h
        obtain ⟨rfl, first⟩ := Text.cut?_eq_some_iff.1 opened
        obtain ⟨rfl, last⟩ := Text.cut?_eq_some_iff.1 closed
        exact ⟨by simp [Hole.text], first, last⟩
  · rintro ⟨rfl, first, last⟩
    have opened := Text.cut?_append first (hole.expression ++ closeMark ++ rest)
    have closed := Text.cut?_append last rest
    unfold firstHole?
    simp only [Hole.text, List.append_assoc] at opened closed ⊢
    simp only [opened, closed]

/-- There is no first placeholder exactly if there is none at all. An opening mark further on does
not help: what follows it is the end of what follows the first one. -/
theorem firstHole?_eq_none_iff {cs : List Char} :
    firstHole? cs = none ↔ ¬ HoldsPlaceholder cs := by
  constructor
  · rintro missing ⟨before, inside, after, whole⟩
    -- Either nothing is opened, against `whole`, or what is opened first is not closed.
    unfold firstHole? at missing
    split at missing
    · next unopened =>
      refine Text.cut?_eq_none_iff.1 unopened ⟨before, inside ++ closeMark ++ after, ?_⟩
      simp [whole]
    · next literal behind opened =>
      split at missing
      · next unclosed =>
        have later : cs = before ++ openMark ++ (inside ++ closeMark ++ after) := by simp [whole]
        have tail : inside ++ closeMark ++ after <:+ behind := Text.cut?_suffix opened later
        have closes : closeMark <:+: behind :=
          List.IsInfix.trans ⟨inside, after, rfl⟩ tail.isInfix
        exact Text.cut?_eq_none_iff.1 unclosed closes
      · simp at missing
  · intro none
    cases found : firstHole? cs with
    | none => rfl
    | some first =>
      obtain ⟨hole, rest⟩ := first
      have whole := (firstHole?_eq_some_iff.1 found).1
      exact absurd ⟨hole.literal, hole.expression, rest, whole⟩ none

/-! ### All placeholders -/

theorem Layout.text_cons (hole : Hole) (holes : List Hole) (tail : List Char) :
    Layout.text ⟨hole :: holes, tail⟩ = hole.text ++ Layout.text ⟨holes, tail⟩ := by
  simp [Layout.text]

/-- **A text has parts.** -/
theorem layout_partsOf (cs : List Char) : (layout cs).PartsOf cs := by
  fun_induction layout cs with
  | case1 cs missing =>
    exact ⟨rfl, by simp, by simp, firstHole?_eq_none_iff.1 missing⟩
  | case2 cs hole rest found _ ih =>
    obtain ⟨whole, opened, closed⟩ := firstHole?_eq_some_iff.1 found
    refine ⟨?_, ?_, ?_, ih.rest⟩
    · rw [Layout.text_cons, whole]
      exact congrArg (hole.text ++ ·) ih.whole
    · exact List.forall_mem_cons.2 ⟨opened, ih.opened⟩
    · exact List.forall_mem_cons.2 ⟨closed, ih.closed⟩

/-- **A text has no other parts.** -/
theorem Layout.PartsOf.eq_layout {l : Layout} {cs : List Char} (h : l.PartsOf cs) :
    l = layout cs := by
  obtain ⟨holes, tail⟩ := l
  induction holes generalizing cs with
  | nil =>
    obtain rfl : tail = cs := h.whole
    rw [layout_of_none (firstHole?_eq_none_iff.2 h.rest)]
  | cons hole holes ih =>
    obtain ⟨opened, openedRest⟩ := List.forall_mem_cons.1 h.opened
    obtain ⟨closed, closedRest⟩ := List.forall_mem_cons.1 h.closed
    -- The first of the parts is the first placeholder, and the others are parts of the rest.
    have found : firstHole? cs = some (hole, Layout.text ⟨holes, tail⟩) :=
      firstHole?_eq_some_iff.2 ⟨by rw [← h.whole, Layout.text_cons], opened, closed⟩
    rw [layout_of_some found, ← ih ⟨rfl, openedRest, closedRest, h.rest⟩]

/-! ### Values in the places of expressions -/

/-- The parts with a value in the place of every expression. -/
def Layout.withValues (l : Layout) (values : List String) : List Char :=
  (List.zipWith (fun hole value => hole.literal ++ value.toList) l.holes values).flatten ++ l.tail

/-- The value of a placeholder. -/
def Hole.HasValue (resolve : Resolver) (context : Json) (hole : Hole) (value : String) : Prop :=
  resolve context (String.ofList hole.expression) = .ok value

section Rendering

variable {resolve : Resolver} {context : Json} {text : String}

theorem fill_of_values {holes : List Hole} {values : List String}
    (h : List.Forall₂ (Hole.HasValue resolve context) holes values) :
    fill resolve context holes =
      .ok (List.zipWith (fun hole value => hole.literal ++ value.toList) holes values).flatten := by
  induction h with
  | nil => rfl
  | @cons hole value holes values hasValue _ ih =>
    have resolved : resolve context (String.ofList hole.expression) = .ok value := hasValue
    rw [fill]
    simp only [resolved, ih]
    rfl

/-- What comes before the first failure has no effect, and neither has what comes after. -/
theorem fill_of_failure {before after : List Hole} {hole : Hole} {error : PathError}
    (h : ∀ earlier ∈ before, ∃ value, earlier.HasValue resolve context value)
    (failed : resolve context (String.ofList hole.expression) = .error error) :
    fill resolve context (before ++ hole :: after) =
      .error ⟨String.ofList hole.expression, error⟩ := by
  induction before with
  | nil =>
    rw [List.nil_append, fill]
    simp only [failed]
  | cons first before ih =>
    obtain ⟨⟨value, hasValue⟩, later⟩ := List.forall_mem_cons.1 h
    have resolved : resolve context (String.ofList first.expression) = .ok value := hasValue
    rw [List.cons_append, fill]
    simp only [resolved, ih later]

theorem renderParts_eq (l : Layout) (h : l.PartsOf text.toList) :
    renderParts resolve context text =
      (fill resolve context l.holes).map fun filled => String.ofList (filled ++ l.tail) := by
  rw [h.eq_layout]
  unfold renderParts
  dsimp only
  cases fill resolve context (layout text.toList).holes <;> rfl

/-- A text without placeholders is all tail. -/
theorem renderParts_of_no_placeholder (h : ¬ HoldsPlaceholder text.toList) :
    renderParts resolve context text = .ok text := by
  have parts : Layout.PartsOf ⟨[], text.toList⟩ text.toList := ⟨rfl, by simp, by simp, h⟩
  rw [renderParts_eq _ parts]
  simp [fill, Except.map]

theorem not_holdsPlaceholder_of_no_open {cs : List Char} (h : ¬ openMark <:+: cs) :
    ¬ HoldsPlaceholder cs := by
  rintro ⟨before, inside, after, whole⟩
  exact h ⟨before, inside ++ closeMark ++ after, by simp [whole]⟩

/-- Looking for an opening mark first makes no difference. -/
theorem render_eq_renderParts : render resolve context text = renderParts resolve context text := by
  unfold render
  split
  · next unopened =>
    have none := Text.cut?_eq_none_iff.1 (Option.isNone_iff_eq_none.1 unopened)
    rw [renderParts_of_no_placeholder (not_holdsPlaceholder_of_no_open none)]
  · rfl

/-- A text whose expressions all have values is rendered as its parts with these values. -/
theorem render_of_values {l : Layout} {values : List String} (parts : l.PartsOf text.toList)
    (h : List.Forall₂ (Hole.HasValue resolve context) l.holes values) :
    render resolve context text = .ok (String.ofList (l.withValues values)) := by
  rw [render_eq_renderParts, renderParts_eq l parts, fill_of_values h]
  rfl

/-- A text is not rendered because of the first expression that has no value. -/
theorem render_of_failure {l : Layout} {before after : List Hole} {hole : Hole} {error : PathError}
    (parts : l.PartsOf text.toList) (split : l.holes = before ++ hole :: after)
    (h : ∀ earlier ∈ before, ∃ value, earlier.HasValue resolve context value)
    (failed : resolve context (String.ofList hole.expression) = .error error) :
    render resolve context text = .error ⟨String.ofList hole.expression, error⟩ := by
  rw [render_eq_renderParts, renderParts_eq l parts, split, fill_of_failure h failed]
  rfl

/-- Rendering puts the value of the first placeholder in its place and goes on behind it. -/
theorem render_of_firstHole {hole : Hole} {rest : List Char} {value : String}
    (found : firstHole? text.toList = some (hole, rest))
    (hasValue : hole.HasValue resolve context value) :
    render resolve context text =
      (render resolve context (String.ofList rest)).map fun filled =>
        String.ofList hole.literal ++ value ++ filled := by
  have resolved : resolve context (String.ofList hole.expression) = .ok value := hasValue
  rw [render_eq_renderParts, render_eq_renderParts]
  unfold renderParts
  rw [String.toList_ofList, layout_of_some found]
  dsimp only
  rw [fill]
  simp only [resolved]
  cases fill resolve context (layout rest).holes with
  | error e => rfl
  | ok filled => simp [Except.map, String.ofList_append, String.append_assoc]

end Rendering

/-- **Rendering by parts.** Every text has its parts, and no others. If all expressions have values,
the text is rendered as the literal parts with the values between them, untouched; otherwise the
error is that of the first expression without a value, with this expression as it is written. The
short way out for a text without an opening mark gives what the parts give, and a text without a
placeholder is rendered as itself. -/
theorem render_by_parts (resolve : Resolver) (context : Json) (text : String) :
    (∃! l : Layout, l.PartsOf text.toList) ∧
    (∀ l : Layout, l.PartsOf text.toList →
      (∀ values : List String,
        List.Forall₂ (Hole.HasValue resolve context) l.holes values →
        render resolve context text = .ok (String.ofList (l.withValues values))) ∧
      (∀ (before after : List Hole) (hole : Hole) (error : PathError),
        l.holes = before ++ hole :: after →
        (∀ earlier ∈ before, ∃ value, earlier.HasValue resolve context value) →
        resolve context (String.ofList hole.expression) = .error error →
        render resolve context text = .error ⟨String.ofList hole.expression, error⟩)) ∧
    (¬ openMark <:+: text.toList → renderParts resolve context text = .ok text) ∧
    (¬ HoldsPlaceholder text.toList → render resolve context text = .ok text) := by
  refine ⟨⟨layout text.toList, layout_partsOf _, fun l h => h.eq_layout⟩, fun l parts => ⟨?_, ?_⟩,
    fun unopened => ?_, fun none => ?_⟩
  · intro values h
    exact render_of_values parts h
  · intro before after hole error split h failed
    exact render_of_failure parts split h failed
  · exact renderParts_of_no_placeholder (not_holdsPlaceholder_of_no_open unopened)
  · rw [render_eq_renderParts, renderParts_of_no_placeholder none]

/-- Marks that overlap, and a value that looks like a placeholder: of three braces the first two
open, of four the first two close, and an opening mark at the end is literal text. -/
theorem render_by_parts_overlapping :
    let text := "\x7b\x7b\x7ba\x7d\x7d\x7d\x7d\x7b\x7b"
    let context := Json.object [("\x7ba", .string "\x7b\x7bx\x7d\x7d")]
    let l : Layout := ⟨[⟨[], ['\x7b', 'a']⟩], ['\x7d', '\x7d', '\x7b', '\x7b']⟩
    l.PartsOf text.toList ∧
    List.Forall₂ (Hole.HasValue pathResolver context) l.holes ["\x7b\x7bx\x7d\x7d"] ∧
    render pathResolver context text = .ok "\x7b\x7bx\x7d\x7d\x7d\x7d\x7b\x7b" := by
  intro text context l
  have found : layout text.toList = l := by decide +kernel
  have parts : l.PartsOf text.toList := found ▸ layout_partsOf text.toList
  have values : List.Forall₂ (Hole.HasValue pathResolver context) l.holes
      ["\x7b\x7bx\x7d\x7d"] := .cons (by unfold Hole.HasValue; decide +kernel) .nil
  exact ⟨parts, values, ((render_by_parts pathResolver context text).2.1 l parts).1 _ values⟩

end PushNotice.Placeholder
