import Mathlib.Algebra.Group.Nat.Defs
import PushNotice.Proofs.Placeholder.Printing

/-!
# PushNotice.Proofs.Placeholder.Spelling

**One step, several spellings.** A bare key may be written behind a dot or between quotes of either
kind in brackets, and is the same segment however it is written. A word numeral may be written like
a key and, besides, as an index in brackets. These are two segments, but no value can tell them
apart (`step?_numeral`): an object is asked for the canonical numeral of an index, and an array
takes a key for the number that it is the numeral of. Whatever comes before such a step and behind
it, the text at the end is the same.
-/

namespace PushNotice.Placeholder

/-! ### Spellings -/

/-- The ways to write a key as a step. -/
def keySpellings (name : String) : List String :=
  ["." ++ name, "[\"" ++ name ++ "\"]", "['" ++ name ++ "']"]

/-- The ways to write a number as a step. -/
def indexSpellings (n : Nat) : List String :=
  ("[" ++ Decimal.numeral n ++ "]") :: keySpellings (Decimal.numeral n)

/-- The text goes on with a path: it is made up of steps, perhaps of none. -/
def IsContinuation (s : String) : Prop :=
  ∃ forms : List StepForm, stepsText forms = s.toList

theorem IsBare.not_mem_of_mark {name : String} (h : IsBare name) {c : Char} (mark : c ∈ marks) :
    c ∉ name.toList := fun mem =>
  (isKeyChar_iff.1 (h.2 c mem)).1 mark

/-- A canonical numeral can be written as a bare key. -/
theorem isBare_numeral {n : Nat} (h : n < Decimal.wordLimit) : IsBare (Decimal.numeral n) := by
  rw [IsBare, ← Decimal.WordForm.canonical_text h]
  refine ⟨Decimal.WordForm.text_ne_nil _, fun c mem => isKeyChar_iff.2 ⟨fun mark => ?_, ?_⟩⟩
  · have numeral := Decimal.WordForm.mem_text mem
    simp only [marks, List.mem_cons, List.not_mem_nil, or_false] at mark
    rcases mark with rfl | rfl | rfl | rfl | rfl <;> exact absurd numeral (by decide)
  · exact not_blank_of_mem_number _ c mem

theorem exists_form_of_mem_keySpellings {name step : String} (bare : IsBare name)
    (mem : step ∈ keySpellings name) :
    ∃ form : StepForm, form.text = step.toList ∧ form.segment = .key name := by
  have quoted : ∀ quote, quote = '"' ∨ quote = '\'' → quote ∈ marks →
      ∃ form : StepForm, form.text = '[' :: quote :: name.toList ++ [quote, ']'] ∧
        form.segment = .key name := by
    intro quote isQuote mark
    refine ⟨.quoted ⟨quote, name.toList, isQuote, bare.not_mem_of_mark mark⟩, ?_, ?_⟩
    · simp [StepForm.text, QuotedForm.text]
    · simp [StepForm.segment]
  simp only [keySpellings, List.mem_cons, List.not_mem_nil, or_false] at mem
  rcases mem with rfl | rfl | rfl
  · exact ⟨.dotted bare.form, by simp [StepForm.text, IsBare.form], bare.form_segment⟩
  · simpa using quoted '"' (.inl rfl) (by decide)
  · simpa using quoted '\'' (.inr rfl) (by decide)

/-- A number is written as an index, or as the key that its numeral is. -/
theorem exists_form_of_mem_indexSpellings {n : Nat} {step : String} (h : n < Decimal.wordLimit)
    (mem : step ∈ indexSpellings n) :
    ∃ form : StepForm, form.text = step.toList ∧
      (form.segment = .index n ∨ form.segment = .key (Decimal.numeral n)) := by
  rcases List.mem_cons.1 mem with rfl | mem
  · obtain ⟨form, written, denoted⟩ := (Segment.PrintedAs.index n).exists_form h
    exact ⟨form, by simp [written], .inl denoted⟩
  · obtain ⟨form, written, denoted⟩ := exists_form_of_mem_keySpellings (isBare_numeral h) mem
    exact ⟨form, written, .inr denoted⟩

/-! ### Steps that no value can tell apart -/

/-- **A numeral leads where its number leads**, into whatever value. -/
theorem step?_numeral {n : Nat} (h : n < Decimal.wordLimit) (j : Json) :
    step? j (.key (Decimal.numeral n)) = step? j (.index n) := by
  cases j with
  | array items =>
    change (Decimal.word? (Decimal.numeral n).toList).bind (fun n => items[n]?) = items[n]?
    rw [Decimal.word?_numeral h, Option.bind_some]
  | object members => rfl
  | null | bool | number | string => rfl

/-- Segments that lead to the same from every value can stand for each other in a path. -/
theorem textAt_congr_step {segment segment' : Segment} (h : ∀ j, step? j segment = step? j segment')
    (context : Json) (path rest : Path) :
    textAt context (path ++ segment :: rest) = textAt context (path ++ segment' :: rest) := by
  unfold textAt
  simp only [lookup?_append, lookup?_cons, h]

/-! ### Steps within an expression -/

/-- An expression with a step and a continuation behind it is read as its path, the segment of the
step and the segments of the continuation. -/
theorem parse_append_step {expression : String} {path : Path}
    (parsed : Path.parse expression = .ok path) (bounded : Text.trimmed expression = expression)
    (form : StepForm) (forms : List StepForm) :
    Path.parse (String.ofList (expression.toList ++ form.text ++ stepsText forms)) =
      .ok (path ++ form.segment :: forms.map StepForm.segment) := by
  obtain ⟨whole, written, rfl⟩ := pathOfTrimmed_eq_ok_iff.1 parsed
  have untrimmed : Text.trim expression.toList = expression.toList := by
    rw [← String.toList_ofList (l := Text.trim expression.toList)]
    exact congrArg String.toList bounded
  rw [untrimmed] at written
  let longer : PathForm := ⟨whole.first, whole.steps ++ form :: forms⟩
  have text : expression.toList ++ form.text ++ stepsText forms = longer.text := by
    rw [← written]
    simp [longer, PathForm.text, stepsText]
  refine pathOfTrimmed_eq_ok_iff.2 ⟨longer, ?_, ?_⟩
  · rw [String.toList_ofList, text, longer.trim_text]
  · simp [longer, PathForm.path]

/-- **Spellings of one step agree.** Behind a path without blanks at its ends and in front of any
continuation, a number below `2 ^ 64` may be written as an index or as a key of any form, and a bare
key as a key of any form: the text is the same, in whatever context. -/
theorem spellings_agree (expression continuation : String) (path : Path)
    (parsed : Path.parse expression = .ok path) (bounded : Text.trimmed expression = expression)
    (continues : IsContinuation continuation) (context : Json) :
    (∀ n, n < 2 ^ 64 → ∃ text, ∀ step ∈ indexSpellings n,
      pathResolver context (expression ++ step ++ continuation) = .ok text) ∧
    ∀ name, IsBare name → ∃ text, ∀ step ∈ keySpellings name,
      pathResolver context (expression ++ step ++ continuation) = .ok text := by
  obtain ⟨forms, continued⟩ := continues
  let rest := forms.map StepForm.segment
  have resolved : ∀ (step : String) (form : StepForm), form.text = step.toList →
      pathResolver context (expression ++ step ++ continuation) =
        .ok (textAt context (path ++ form.segment :: rest)) := by
    intro step form written
    have whole : String.ofList (expression.toList ++ form.text ++ stepsText forms) =
        expression ++ step ++ continuation := by
      rw [written, continued]
      simp [String.ofList_append, String.append_assoc]
    exact pathResolver_of_parse (whole ▸ parse_append_step parsed bounded form forms)
  refine ⟨fun n small => ?_, fun name bare => ?_⟩
  · refine ⟨textAt context (path ++ .index n :: rest), fun step mem => ?_⟩
    obtain ⟨form, written, denoted⟩ := exists_form_of_mem_indexSpellings small mem
    rw [resolved step form written]
    rcases denoted with index | key
    · rw [index]
    · rw [key, textAt_congr_step (step?_numeral small)]
  · refine ⟨textAt context (path ++ .key name :: rest), fun step mem => ?_⟩
    obtain ⟨form, written, denoted⟩ := exists_form_of_mem_keySpellings bare mem
    rw [resolved step form written, denoted]

/-- A member of the second item of an array, in the four spellings of the number of that item. -/
theorem spellings_agree_second_item :
    let context := Json.object [("a", .array [.null, .object [("x", .string "v")]])]
    Path.parse "a" = .ok [.key "a"] ∧ Text.trimmed "a" = "a" ∧ IsContinuation "['x']" ∧
    ∀ step ∈ [".1", "[1]", "[\"1\"]", "['1']"],
      pathResolver context ("a" ++ step ++ "['x']") = .ok "v" := by
  intro context
  have parsed : Path.parse "a" = .ok [.key "a"] := by decide +kernel
  have bounded : Text.trimmed "a" = "a" := by decide +kernel
  have continues : IsContinuation "['x']" :=
    ⟨[.quoted ⟨'\'', ['x'], .inr rfl, by decide⟩], by decide⟩
  obtain ⟨text, agree⟩ :=
    (spellings_agree "a" "['x']" _ parsed bounded continues context).1 1 (by decide)
  have one : pathResolver context ("a" ++ "[1]" ++ "['x']") = .ok "v" := by decide +kernel
  have spelled : ∀ step ∈ [".1", "[1]", "[\"1\"]", "['1']"], step ∈ indexSpellings 1 := by decide
  have value : text = "v" :=
    Except.ok.inj ((agree "[1]" (spelled "[1]" (by decide))).symm.trans one)
  refine ⟨parsed, bounded, continues, fun step mem => ?_⟩
  rw [agree step (spelled step mem), value]

end PushNotice.Placeholder
