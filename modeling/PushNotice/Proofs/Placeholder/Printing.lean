import PushNotice.Proofs.Placeholder.Grammar
import PushNotice.Proofs.Placeholder.Parts

/-!
# PushNotice.Proofs.Placeholder.Printing

**Paths as they are printed.** A path is printed with its first key bare, an index as its canonical
numeral in brackets, and any other key behind a dot if it can be bare and between quotes that it
lacks if not. What an expression denotes can always be printed (`PathForm.path_denotable`,
`Path.Denotable.exists_printedAs`).

Printed between the marks of a placeholder, a path without closing marks in its keys is read back
as itself: no character that the printer puts between keys is a brace, so a closing mark in the
printed text would lie within one key.
-/

namespace PushNotice.Placeholder

/-! ### Paths that can be written -/

/-- A key that can be written as it is. -/
def IsBare (name : String) : Prop :=
  name.toList ≠ [] ∧ ∀ c ∈ name.toList, isKeyChar c = true

/-- A key that can be written between quotes of one of the two kinds. -/
def LacksQuote (name : String) : Prop :=
  '"' ∉ name.toList ∨ '\'' ∉ name.toList

instance (name : String) : Decidable (IsBare name) :=
  decidable_of_iff (name.toList ≠ [] ∧ name.toList.all isKeyChar = true)
    (and_congr_right' List.all_eq_true)

/-- A segment that a step of an expression can denote. -/
def Segment.Denotable : Segment → Prop
  | .key name => LacksQuote name
  | .index n => n < Decimal.wordLimit

/-- A path that an expression can denote. -/
inductive Path.Denotable : Path → Prop where
  | intro {first : String} {rest : List Segment} (bare : IsBare first)
      (steps : ∀ segment ∈ rest, segment.Denotable) : Denotable (.key first :: rest)

/-- A path that an expression between the marks of a placeholder can denote. -/
structure Path.Expressible (path : Path) : Prop where
  denotable : path.Denotable
  unclosed : ∀ name, .key name ∈ path → ¬ closeMark <:+: name.toList

/-! ### Printing -/

/-- How a step is printed. -/
inductive Segment.PrintedAs : Segment → List Char → Prop where
  | index (n : Nat) : PrintedAs (.index n) ('[' :: (Decimal.numeral n).toList ++ [']'])
  | bare {name : String} (bare : IsBare name) : PrintedAs (.key name) ('.' :: name.toList)
  | quoted {name : String} {quote : Char} (notBare : ¬ IsBare name)
      (isQuote : quote = '"' ∨ quote = '\'') (absent : quote ∉ name.toList) :
      PrintedAs (.key name) ('[' :: quote :: name.toList ++ [quote, ']'])

/-- How steps are printed, one after the other. -/
inductive StepsPrintedAs : List Segment → List Char → Prop where
  | nil : StepsPrintedAs [] []
  | cons {segment : Segment} {rest : List Segment} {step steps : List Char}
      (printed : segment.PrintedAs step) (printedRest : StepsPrintedAs rest steps) :
      StepsPrintedAs (segment :: rest) (step ++ steps)

/-- How a path is printed. -/
inductive Path.PrintedAs : Path → String → Prop where
  | intro {first : String} {rest : List Segment} {steps : List Char}
      (printed : StepsPrintedAs rest steps) :
      PrintedAs (.key first :: rest) (first ++ String.ofList steps)

theorem LacksQuote.exists_quote {name : String} (h : LacksQuote name) :
    ∃ quote, (quote = '"' ∨ quote = '\'') ∧ quote ∉ name.toList := by
  rcases h with absent | absent
  · exact ⟨'"', .inl rfl, absent⟩
  · exact ⟨'\'', .inr rfl, absent⟩

theorem Segment.Denotable.exists_printedAs {segment : Segment} (h : segment.Denotable) :
    ∃ text, segment.PrintedAs text := by
  cases segment with
  | index n => exact ⟨_, .index n⟩
  | key name =>
    by_cases bare : IsBare name
    · exact ⟨_, .bare bare⟩
    · obtain ⟨quote, isQuote, absent⟩ := LacksQuote.exists_quote h
      exact ⟨_, .quoted bare isQuote absent⟩

/-- **What can be denoted can be printed.** -/
theorem Path.Denotable.exists_printedAs {path : Path} (h : path.Denotable) :
    ∃ text, path.PrintedAs text := by
  obtain ⟨-, steps⟩ := h
  have printed : ∀ rest : List Segment, (∀ segment ∈ rest, segment.Denotable) →
      ∃ text, StepsPrintedAs rest text := by
    intro rest denotable
    induction rest with
    | nil => exact ⟨[], .nil⟩
    | cons segment rest ih =>
      obtain ⟨now, later⟩ := List.forall_mem_cons.1 denotable
      obtain ⟨step, printed⟩ := now.exists_printedAs
      obtain ⟨steps, printedRest⟩ := ih later
      exact ⟨step ++ steps, .cons printed printedRest⟩
  obtain ⟨text, printed⟩ := printed _ steps
  exact ⟨_, .intro printed⟩

/-! ### What is read can be written -/

theorem KeyForm.isBare (key : KeyForm) : IsBare (String.ofList key.chars) := by
  rw [IsBare, String.toList_ofList]
  exact ⟨key.nonempty, key.keyChars⟩

theorem IsBare.lacksQuote {name : String} (h : IsBare name) : LacksQuote name :=
  .inl fun mem => absurd (h.2 _ mem) (by decide)

theorem StepForm.segment_denotable (form : StepForm) : form.segment.Denotable := by
  cases form with
  | dotted key => exact key.isBare.lacksQuote
  | quoted key =>
    have absent := key.absent
    rcases key.isQuote with isQuote | isQuote
    · exact .inl (by rwa [String.toList_ofList, ← isQuote])
    · exact .inr (by rwa [String.toList_ofList, ← isQuote])
  | indexed index => exact index.number.bounded

/-- **What an expression denotes can be written.** -/
theorem PathForm.path_denotable (form : PathForm) : form.path.Denotable :=
  .intro form.first.isBare (List.forall_mem_map.2 fun step _ => step.segment_denotable)

/-! ### What is printed is a form -/

/-- The form of a key that is printed as it is. -/
def IsBare.form {name : String} (h : IsBare name) : KeyForm :=
  ⟨name.toList, h.1, fun c mem => isKeyChar_iff.1 (h.2 c mem)⟩

@[simp] theorem IsBare.form_segment {name : String} (h : IsBare name) :
    h.form.segment = .key name :=
  congrArg Segment.key String.ofList_toList

/-- A printed step is a form of what it was printed from. -/
theorem Segment.PrintedAs.exists_form {segment : Segment} {text : List Char}
    (h : segment.PrintedAs text) (denotable : segment.Denotable) :
    ∃ form : StepForm, form.text = text ∧ form.segment = segment := by
  cases h with
  | index n =>
    refine ⟨.indexed ⟨[], .canonical denotable, [], by simp, by simp⟩, ?_, ?_⟩
    · simp [StepForm.text, IndexForm.text, Decimal.WordForm.canonical_text denotable]
    · exact congrArg Segment.index (Decimal.WordForm.canonical_value denotable)
  | bare bare => exact ⟨.dotted bare.form, rfl, bare.form_segment⟩
  | @quoted name quote _ isQuote absent =>
    refine ⟨.quoted ⟨quote, name.toList, isQuote, absent⟩, ?_, ?_⟩
    · simp [StepForm.text, QuotedForm.text]
    · simp [StepForm.segment]

theorem StepsPrintedAs.exists_forms {path : List Segment} {text : List Char}
    (h : StepsPrintedAs path text) (denotable : ∀ segment ∈ path, segment.Denotable) :
    ∃ forms, stepsText forms = text ∧ forms.map StepForm.segment = path := by
  induction h with
  | nil => exact ⟨[], rfl, rfl⟩
  | cons printed _ ih =>
    obtain ⟨now, later⟩ := List.forall_mem_cons.1 denotable
    obtain ⟨form, rfl, rfl⟩ := printed.exists_form now
    obtain ⟨forms, rfl, rfl⟩ := ih later
    exact ⟨form :: forms, rfl, rfl⟩

theorem Path.PrintedAs.exists_form {path : Path} {text : String} (h : path.PrintedAs text)
    (denotable : path.Denotable) :
    ∃ form : PathForm, form.text = text.toList ∧ form.path = path := by
  obtain ⟨printed⟩ := h
  obtain ⟨bare, steps⟩ := denotable
  obtain ⟨forms, rfl, rfl⟩ := printed.exists_forms steps
  refine ⟨⟨bare.form, forms⟩, ?_, ?_⟩
  · simp [PathForm.text, IsBare.form]
  · simp [PathForm.path]

/-- **A printed path is read back**, with blanks around it. -/
theorem parse_printed {path : Path} {text : String} (h : path.PrintedAs text)
    (denotable : path.Denotable) {before after : List Char}
    (blankBefore : Text.allBlank before = true) (blankAfter : Text.allBlank after = true) :
    Path.parse (String.ofList (before ++ text.toList ++ after)) = .ok path := by
  obtain ⟨form, written, denoted⟩ := h.exists_form denotable
  refine pathOfTrimmed_eq_ok_iff.2 ⟨form, ?_, denoted⟩
  rw [String.toList_ofList, Text.trim_append blankBefore blankAfter, ← written, form.trim_text]

/-! ### No closing mark in what is printed -/

/-- The closing mark does not reach over any other character. -/
theorem closeMark_infix_append_cons_iff {xs ys : List Char} {c : Char} (hc : c ≠ '\x7d') :
    closeMark <:+: xs ++ c :: ys ↔ closeMark <:+: xs ∨ closeMark <:+: ys :=
  Text.infix_append_cons_iff (by simp [closeMark, hc])

theorem not_closeMark_infix_nil : ¬ closeMark <:+: [] := by
  simp [closeMark]

theorem closeMark_infix_enclosed_iff {inner : List Char} {c d : Char} (hc : c ≠ '\x7d')
    (hd : d ≠ '\x7d') : closeMark <:+: c :: inner ++ [d] ↔ closeMark <:+: inner := by
  have seams : c :: inner ++ [d] = [] ++ c :: (inner ++ d :: []) := by simp
  rw [seams, closeMark_infix_append_cons_iff hc, closeMark_infix_append_cons_iff hd]
  simp only [not_closeMark_infix_nil, false_or, or_false]

theorem not_closeMark_infix_bracket {front inner behind : List Char}
    (before : ¬ closeMark <:+: front) (inside : ¬ closeMark <:+: inner)
    (after : ¬ closeMark <:+: behind) :
    ¬ closeMark <:+: front ++ ('[' :: inner ++ [']'] ++ behind) := by
  have seams : front ++ ('[' :: inner ++ [']'] ++ behind) =
      front ++ '[' :: (inner ++ ']' :: behind) := by simp
  rw [seams, closeMark_infix_append_cons_iff (by decide),
    closeMark_infix_append_cons_iff (by decide)]
  exact not_or.2 ⟨before, not_or.2 ⟨inside, after⟩⟩

theorem not_closeMark_infix_numeral {n : Nat} (h : n < Decimal.wordLimit) :
    ¬ closeMark <:+: (Decimal.numeral n).toList := by
  intro closes
  have mem : '\x7d' ∈ (Decimal.WordForm.canonical h).text :=
    Decimal.WordForm.canonical_text h ▸ closes.subset (by simp [closeMark])
  exact absurd (Decimal.WordForm.mem_text mem) (by decide)

/-- What is printed for a step opens with a character that is no brace, so a closing mark lies in
what stands before the steps or in one of the keys. -/
theorem StepsPrintedAs.unclosed {path : List Segment} {front text : List Char}
    (h : StepsPrintedAs path text) (denotable : ∀ segment ∈ path, segment.Denotable)
    (keys : ∀ name, .key name ∈ path → ¬ closeMark <:+: name.toList)
    (before : ¬ closeMark <:+: front) : ¬ closeMark <:+: front ++ text := by
  -- What stands before the rest is the key behind a dot, and nothing behind a bracket.
  induction h generalizing front with
  | nil => simpa using before
  | cons printed _ ih =>
    obtain ⟨now, later⟩ := List.forall_mem_cons.1 denotable
    have keysLater := fun name mem => keys name (List.mem_cons_of_mem _ mem)
    have behind := ih later keysLater not_closeMark_infix_nil
    cases printed with
    | index n => exact not_closeMark_infix_bracket before (not_closeMark_infix_numeral now) behind
    | @bare name bare =>
      have goesOn := ih later keysLater (keys name List.mem_cons_self)
      rw [List.cons_append, closeMark_infix_append_cons_iff (by decide)]
      exact not_or.2 ⟨before, goesOn⟩
    | @quoted name quote _ isQuote _ =>
      have other : quote ≠ '\x7d' := by rcases isQuote with rfl | rfl <;> decide
      have inside : ¬ closeMark <:+: quote :: name.toList ++ [quote] :=
        (closeMark_infix_enclosed_iff other other).not.2 (keys name List.mem_cons_self)
      simpa using not_closeMark_infix_bracket before inside behind

theorem Path.PrintedAs.unclosed {path : Path} {text : String} (h : path.PrintedAs text)
    (expressible : path.Expressible) : ¬ closeMark <:+: text.toList := by
  obtain ⟨denotable, keys⟩ := expressible
  obtain ⟨printed⟩ := h
  obtain ⟨bare, steps⟩ := denotable
  rw [String.toList_append, String.toList_ofList]
  exact printed.unclosed steps (fun name mem => keys name (List.mem_cons_of_mem _ mem))
    (keys _ List.mem_cons_self)

/-! ### In a text -/

/-- The placeholder with a printed path is the first one of a text in which nothing before it
opens one. -/
theorem firstHole?_printed {path : Path} {text : String} {literal : List Char}
    (h : path.PrintedAs text) (expressible : path.Expressible)
    (unopened : ¬ openMark <:+: literal) (last : literal.getLast? ≠ some '\x7b')
    (rest : List Char) :
    firstHole? (Hole.text ⟨literal, ' ' :: text.toList ++ [' ']⟩ ++ rest) =
      some (⟨literal, ' ' :: text.toList ++ [' ']⟩, rest) := by
  refine firstHole?_eq_some_iff.2 ⟨rfl, Text.firstAtEnd_pair_iff.2 ⟨unopened, last⟩, ?_⟩
  have closed : ¬ closeMark <:+: ' ' :: text.toList ++ [' '] :=
    (closeMark_infix_enclosed_iff (by decide) (by decide)).not.2 (h.unclosed expressible)
  exact Text.firstAtEnd_pair_iff.2 ⟨closed, by rw [List.getLast?_concat]; decide⟩

theorem pathResolver_of_parse {context : Json} {expression : String} {path : Path}
    (h : Path.parse expression = .ok path) :
    pathResolver context expression = .ok (textAt context path) := by
  unfold pathResolver
  simp only [h]

/-- **A printed path means itself.** Printed between the marks of a placeholder, a path stands for
the text at its end: the placeholder is the first one of the text, what stands before it is kept,
and what follows it is rendered on its own, with its own error if it has one. Every expressible path
can be printed, and an expression denotes nothing but such paths, closing marks in keys apart. -/
theorem render_printed (context : Json) :
    (∀ (path : Path) (text pre post : String), path.Expressible → path.PrintedAs text →
      ¬ openMark <:+: pre.toList → pre.toList.getLast? ≠ some '\x7b' →
      render pathResolver context (pre ++ "\x7b\x7b " ++ text ++ " \x7d\x7d" ++ post) =
        (render pathResolver context post).map fun rest => pre ++ textAt context path ++ rest) ∧
    (∀ path : Path, path.Expressible → ∃ text, path.PrintedAs text) ∧
    ∀ (expression : String) (path : Path),
      Path.parse expression = .ok path → path.Denotable := by
  refine ⟨?_, fun path expressible => expressible.denotable.exists_printedAs, ?_⟩
  · intro path text pre post expressible printed unopened last
    have found := firstHole?_printed printed expressible unopened last post.toList
    have hasValue : Hole.HasValue pathResolver context
        ⟨pre.toList, ' ' :: text.toList ++ [' ']⟩ (textAt context path) := by
      have blank : Text.allBlank [' '] = true := by decide
      have read : Path.parse (String.ofList ([' '] ++ text.toList ++ [' '])) = .ok path :=
        parse_printed printed expressible.denotable blank blank
      exact pathResolver_of_parse read
    have whole : (pre ++ "\x7b\x7b " ++ text ++ " \x7d\x7d" ++ post).toList =
        Hole.text ⟨pre.toList, ' ' :: text.toList ++ [' ']⟩ ++ post.toList := by
      simp [Hole.text, openMark, closeMark]
    rw [← whole] at found
    rw [render_of_firstHole found hasValue, String.ofList_toList, String.ofList_toList]
  · intro expression path read
    obtain ⟨form, -, rfl⟩ := pathOfTrimmed_eq_ok_iff.1 read
    exact form.path_denotable

/-- Keys with dots, brackets, blanks, quotes of either kind and opening marks, and the empty key. -/
theorem render_printed_odd_keys :
    let path : Path := [.key "a\x7d", .index 10, .key "x.y[0] \"\x7d", .key "", .key "it's",
      .key "\x7b\x7b"]
    let text := "a\x7d[10]['x.y[0] \"\x7d'][\"\"][\"it's\"].\x7b\x7b"
    let pre := "\x7b \x7d"
    let post := "\x7b\x7b b \x7d\x7d!"
    let context := Json.object [("a\x7d", .object [("10", .object [("x.y[0] \"\x7d",
      .object [("", .object [("it's", .object [("\x7b\x7b", .string "v")])])])])]),
      ("b", .bool true)]
    path.Expressible ∧ path.PrintedAs text ∧ ¬ openMark <:+: pre.toList ∧
      pre.toList.getLast? ≠ some '\x7b' ∧
      render pathResolver context (pre ++ "\x7b\x7b " ++ text ++ " \x7d\x7d" ++ post) =
        .ok "\x7b \x7dvtrue!" ∧
      Path.parse text = .ok path ∧ path.Denotable := by
  intro path text pre post context
  have expressible : path.Expressible := by
    constructor
    · refine .intro (by decide) ?_
      simp [Segment.Denotable, LacksQuote, Decimal.wordLimit]
    · simp [path, closeMark]
      decide
  have printed : path.PrintedAs text := by
    have steps : StepsPrintedAs path.tail _ :=
      .cons (.index 10) <| .cons (.quoted (by decide) (.inr rfl) (by decide)) <|
      .cons (.quoted (by decide) (.inl rfl) (by decide)) <|
      .cons (.quoted (by decide) (.inl rfl) (by decide)) <| .cons (.bare (by decide)) .nil
    exact .intro steps
  have unopened : ¬ openMark <:+: pre.toList := by decide
  have last : pre.toList.getLast? ≠ some '\x7b' := by decide
  obtain ⟨means, -, denotes⟩ := render_printed context
  have read : Path.parse text = .ok path := by decide +kernel
  have rest : (render pathResolver context post).map
      (fun rest => pre ++ textAt context path ++ rest) = .ok "\x7b \x7dvtrue!" := by
    decide +kernel
  exact ⟨expressible, printed, unopened, last,
    (means path text pre post expressible printed unopened last).trans rest, read,
    denotes text path read⟩

end PushNotice.Placeholder
