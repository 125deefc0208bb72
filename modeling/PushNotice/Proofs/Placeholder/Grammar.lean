import PushNotice.Placeholder.Path
import PushNotice.Proofs.Decimal.Word
import PushNotice.Proofs.Result

/-!
# PushNotice.Proofs.Placeholder.Grammar

**The grammar of paths.** A path is written as a bare key and steps after it; a step is a dot and a
bare key, a quoted key in brackets, or an index in brackets with blanks around it. The forms below
are the derivations of this grammar, and carry what makes them ones. `text` is what a form is
written as, `path` what it denotes.

`steps_eq_ok_iff` is the heart: the reader of steps accepts exactly what the step forms write, and
returns what they denote. That a text has one form at most comes from the seams, not from the
reader: what follows a step never starts with a character of a bare key.
-/

namespace PushNotice.Placeholder

/-! ### Forms -/

/-- The marks that stand between the keys of a path. -/
def marks : List Char :=
  ['.', '[', ']', '"', '\'']

/-- A bare key as it is written: neither marks nor blanks. -/
@[ext]
structure KeyForm where
  chars : List Char
  nonempty : chars ≠ []
  plain : ∀ c ∈ chars, c ∉ marks ∧ Text.isBlank c = false

/-- A key between two quotes of one kind, which it lacks. -/
structure QuotedForm where
  quote : Char
  name : List Char
  isQuote : quote = '"' ∨ quote = '\''
  absent : quote ∉ name

/-- An index with blanks on its two sides. -/
@[ext]
structure IndexForm where
  before : List Char
  number : Decimal.WordForm
  behind : List Char
  blankBefore : ∀ c ∈ before, Text.isBlank c = true
  blankBehind : ∀ c ∈ behind, Text.isBlank c = true

/-- A step as it is written. -/
inductive StepForm where
  /-- A bare key behind a dot. -/
  | dotted (key : KeyForm)
  /-- A quoted key in brackets. -/
  | quoted (key : QuotedForm)
  /-- An index in brackets. -/
  | indexed (index : IndexForm)

/-- A path as it is written. -/
structure PathForm where
  first : KeyForm
  steps : List StepForm

/-- The key that a bare key denotes. -/
def KeyForm.segment (key : KeyForm) : Segment :=
  .key (String.ofList key.chars)

/-- The characters between the brackets of a quoted key. -/
def QuotedForm.text (key : QuotedForm) : List Char :=
  key.quote :: key.name ++ [key.quote]

/-- The characters between the brackets of an index. -/
def IndexForm.text (index : IndexForm) : List Char :=
  index.before ++ index.number.text ++ index.behind

namespace StepForm

/-- The characters of a written step. -/
def text : StepForm → List Char
  | dotted key => '.' :: key.chars
  | quoted key => '[' :: key.text ++ [']']
  | indexed index => '[' :: index.text ++ [']']

/-- The segment that a step denotes. -/
def segment : StepForm → Segment
  | dotted key => key.segment
  | quoted key => .key (String.ofList key.name)
  | indexed index => .index index.number.value

end StepForm

/-- The characters of written steps, one after the other. -/
def stepsText (forms : List StepForm) : List Char :=
  forms.flatMap StepForm.text

namespace PathForm

/-- The characters of a written path. -/
def text (form : PathForm) : List Char :=
  form.first.chars ++ stepsText form.steps

/-- The path that a form denotes. -/
def path (form : PathForm) : Path :=
  form.first.segment :: form.steps.map StepForm.segment

end PathForm

@[simp] theorem stepsText_nil : stepsText [] = [] := rfl

@[simp] theorem stepsText_cons (form : StepForm) (forms : List StepForm) :
    stepsText (form :: forms) = form.text ++ stepsText forms := rfl

/-! ### Seams

A run of characters with a property ends where the first one without it stands. -/

section Runs

variable {p : Char → Bool} {run rest run' rest' : List Char}

/-- The text does not start with a character that has the property. -/
def StartsOff (p : Char → Bool) (rest : List Char) : Prop :=
  ∀ c ∈ rest.head?, p c = false

theorem takeWhile_of_startsOff (h : StartsOff p rest) : rest.takeWhile p = [] := by
  cases rest with
  | nil => rfl
  | cons c rest => simp [h c rfl]

theorem startsOff_dropWhile (p : Char → Bool) (cs : List Char) : StartsOff p (cs.dropWhile p) := by
  intro c first
  exact Bool.eq_false_iff.2 fun holds => by
    have := List.head?_dropWhile_not p cs
    rw [Option.mem_def.1 first] at this
    simp [holds] at this

theorem takeWhile_run (hrun : ∀ c ∈ run, p c = true) (h : StartsOff p rest) :
    (run ++ rest).takeWhile p = run := by
  rw [List.takeWhile_append_of_pos hrun, takeWhile_of_startsOff h, List.append_nil]

theorem dropWhile_run (hrun : ∀ c ∈ run, p c = true) (h : StartsOff p rest) :
    (run ++ rest).dropWhile p = rest := by
  have whole := List.takeWhile_append_dropWhile (p := p) (l := run ++ rest)
  rw [takeWhile_run hrun h] at whole
  exact List.append_cancel_left whole

/-- A text is parted in one way only into a run and what does not go on with it. -/
theorem run_append_inj (hrun : ∀ c ∈ run, p c = true) (hrun' : ∀ c ∈ run', p c = true)
    (h : StartsOff p rest) (h' : StartsOff p rest') (same : run ++ rest = run' ++ rest') :
    run = run' ∧ rest = rest' := by
  have runs : run = run' := by
    rw [← takeWhile_run hrun h, same, takeWhile_run hrun' h']
  exact ⟨runs, List.append_cancel_left (runs ▸ same)⟩

end Runs

/-! ### Bare keys -/

theorem isKeyChar_iff {c : Char} :
    isKeyChar c = true ↔ c ∉ marks ∧ Text.isBlank c = false := by
  simp [isKeyChar, marks, and_assoc]

theorem KeyForm.keyChars (key : KeyForm) : ∀ c ∈ key.chars, isKeyChar c = true :=
  fun c mem => isKeyChar_iff.2 (key.plain c mem)

/-- A bare key is read to its end, where something else has to follow. -/
theorem bareKey?_chars (key : KeyForm) {rest : List Char} (h : StartsOff isKeyChar rest) :
    bareKey? (key.chars ++ rest) = some (String.ofList key.chars, rest) := by
  unfold bareKey?
  rw [takeWhile_run key.keyChars h, dropWhile_run key.keyChars h]
  cases chars : key.chars with
  | nil => exact absurd chars key.nonempty
  | cons c cs => rfl

/-- What is read as a bare key is one, and it goes on as far as it can. -/
theorem bareKey?_eq_some {cs after : List Char} {name : String}
    (h : bareKey? cs = some (name, after)) :
    ∃ key : KeyForm, cs = key.chars ++ after ∧ name = String.ofList key.chars ∧
      StartsOff isKeyChar after := by
  unfold bareKey? at h
  split at h
  · simp at h
  · next c chars taken =>
    simp only [Option.some.injEq, Prod.mk.injEq] at h
    obtain ⟨rfl, rfl⟩ := h
    have plain : ∀ d ∈ c :: chars, d ∉ marks ∧ Text.isBlank d = false := fun d mem =>
      isKeyChar_iff.1 (List.all_eq_true.1 List.all_takeWhile d (taken ▸ mem))
    have whole := List.takeWhile_append_dropWhile (p := isKeyChar) (l := cs)
    rw [taken] at whole
    exact ⟨⟨c :: chars, List.cons_ne_nil _ _, plain⟩, whole.symm, rfl, startsOff_dropWhile _ _⟩

/-! ### Brackets -/

theorem isQuote_iff {c : Char} : isQuote c = true ↔ c = '"' ∨ c = '\'' := by
  simp [isQuote]

/-- **Exactly the quoted keys are read** as such, together with the closing bracket. -/
theorem quotedKey?_eq_some_iff {cs after : List Char} {name : String} :
    quotedKey? cs = some (name, after) ↔
      ∃ key : QuotedForm, cs = key.text ++ ']' :: after ∧ name = String.ofList key.name := by
  constructor
  · intro h
    cases cs with
    | nil => simp [quotedKey?] at h
    | cons quote rest =>
      rw [quotedKey?] at h
      split at h
      · next isQuote =>
        split at h
        · next chars after' cut =>
          simp only [Option.some.injEq, Prod.mk.injEq] at h
          obtain ⟨rfl, rfl⟩ := h
          obtain ⟨whole, first⟩ := Text.cut?_eq_some_iff.1 cut
          refine ⟨⟨quote, chars, isQuote_iff.1 isQuote, Text.firstAtEnd_singleton.1 first⟩, ?_, rfl⟩
          simp [QuotedForm.text, whole]
        · simp at h
      · simp at h
  · rintro ⟨key, rfl, rfl⟩
    have cut := Text.cut?_append (Text.firstAtEnd_singleton.2 key.absent) (']' :: after)
    rw [QuotedForm.text, List.cons_append, List.cons_append, quotedKey?,
      if_pos (isQuote_iff.2 key.isQuote), cut]
    rfl

theorem not_blank_of_mem_number (number : Decimal.WordForm) :
    ∀ c ∈ number.text, Text.isBlank c = false := by
  intro c mem
  rcases Decimal.WordForm.mem_text mem with rfl | digit
  · decide
  · exact Text.isBlank_of_digit digit

namespace IndexForm

/-- Between the brackets of an index stand neither a closing bracket nor a quote. -/
theorem not_mark_of_mem {index : IndexForm} {c : Char} (h : c ∈ index.text) :
    c ∉ [']', '"', '\''] := by
  have notBlank : ∀ m ∈ [']', '"', '\''], ¬ Text.isBlank m = true := by
    simp [Text.isBlank]
  have notNumeral : ∀ m ∈ [']', '"', '\''], ¬ (m = '+' ∨ ('0' ≤ m ∧ m ≤ '9')) := by
    intro m mark
    simp only [List.mem_cons, List.not_mem_nil, or_false] at mark
    rcases mark with rfl | rfl | rfl <;> decide
  intro mark
  rw [text, List.mem_append, List.mem_append] at h
  rcases h with (mem | mem) | mem
  · exact notBlank c mark (index.blankBefore c mem)
  · exact notNumeral c mark (Decimal.WordForm.mem_text mem)
  · exact notBlank c mark (index.blankBehind c mem)

/-- The bracket that closes an index is the first one. -/
theorem closed (index : IndexForm) : Text.FirstAtEnd [']'] index.text :=
  Text.firstAtEnd_singleton.2 fun mem => not_mark_of_mem mem (by simp)

/-- What stands behind an opening bracket shows at once that it is not quoted. -/
theorem head?_not_quote (index : IndexForm) (rest : List Char) :
    (index.text ++ rest).head?.any isQuote = false := by
  cases chars : index.text with
  | nil => simp [text, index.number.text_ne_nil] at chars
  | cons c inner =>
    have notMark : c ∉ [']', '"', '\''] := not_mark_of_mem (chars ▸ List.mem_cons_self)
    simp only [List.mem_cons, List.not_mem_nil, or_false, not_or] at notMark
    simp [isQuote, notMark.2.1, notMark.2.2]

theorem trim_text (index : IndexForm) : Text.trim index.text = index.number.text := by
  rw [text, Text.trim_append (Text.allBlank_iff.2 index.blankBefore)
    (Text.allBlank_iff.2 index.blankBehind)]
  exact Text.trim_eq_self (not_blank_of_mem_number index.number)

/-- An index between its blanks is written in one way only. -/
theorem text_injective : Function.Injective text := by
  have starts : ∀ (number : Decimal.WordForm) (behind : List Char),
      StartsOff Text.isBlank (number.text ++ behind) := by
    intro number behind c first
    cases chars : number.text with
    | nil => exact absurd chars number.text_ne_nil
    | cons d rest =>
      rw [chars, List.cons_append, List.head?_cons, Option.mem_some_iff] at first
      exact not_blank_of_mem_number number c (by simp [chars, first])
  have stops : ∀ index : IndexForm, StartsOff (fun c => !Text.isBlank c) index.behind := by
    intro index c first
    simp [index.blankBehind c (List.mem_of_mem_head? first)]
  intro index index' same
  -- Two seams: blanks end where the numeral starts, and the numeral ends where blanks start.
  rw [text, text, List.append_assoc, List.append_assoc] at same
  obtain ⟨befores, numbered⟩ := run_append_inj index.blankBefore index'.blankBefore
    (starts index.number index.behind) (starts index'.number index'.behind) same
  obtain ⟨numbers, behinds⟩ := run_append_inj (p := fun c => !Text.isBlank c)
    (by simpa using not_blank_of_mem_number index.number)
    (by simpa using not_blank_of_mem_number index'.number)
    (stops index) (stops index') numbered
  exact IndexForm.ext befores (Decimal.WordForm.text_injective numbers) behinds

end IndexForm

/-- **A bracket is read exactly if it is the text of a step**, as what the step denotes. -/
theorem bracket_eq_ok_iff {opening : Nat} {cs after : List Char} {segment : Segment} :
    bracket opening cs = .ok (segment, after) ↔
      ∃ form : StepForm, '[' :: cs = form.text ++ after ∧ form.segment = segment := by
  constructor
  · intro h
    unfold bracket at h
    split at h
    · split at h
      · next name after' found =>
        simp only [Except.ok.injEq, Prod.mk.injEq] at h
        obtain ⟨rfl, rfl⟩ := h
        obtain ⟨key, rfl, rfl⟩ := quotedKey?_eq_some_iff.1 found
        exact ⟨.quoted key, by simp [StepForm.text], rfl⟩
      · simp at h
    · split at h
      · simp at h
      · next inner after' cut =>
        split at h
        · next n read =>
          simp only [Except.ok.injEq, Prod.mk.injEq] at h
          obtain ⟨rfl, rfl⟩ := h
          obtain ⟨number, written, rfl⟩ := Decimal.word?_eq_some_iff.1 read
          -- What trimming takes away are the blanks of the form.
          obtain ⟨before, behind, whole, blankBefore, blankBehind⟩ := Text.trim_split inner
          rw [← written] at whole
          refine ⟨.indexed ⟨before, number, behind, Text.allBlank_iff.1 blankBefore,
            Text.allBlank_iff.1 blankBehind⟩, ?_, rfl⟩
          rw [Text.cut?_eq_some cut, whole]
          simp [StepForm.text, IndexForm.text]
        · simp at h
  · rintro ⟨form, whole, rfl⟩
    cases form with
    | dotted key => simp [StepForm.text] at whole
    | quoted key =>
      obtain rfl : cs = key.text ++ ']' :: after := by simpa [StepForm.text] using whole
      have opens : (key.text ++ ']' :: after).head?.any isQuote = true :=
        isQuote_iff.2 key.isQuote
      rw [bracket, if_pos opens, quotedKey?_eq_some_iff.2 ⟨key, rfl, rfl⟩]
      rfl
    | indexed index =>
      obtain rfl : cs = index.text ++ [']'] ++ after := by simpa [StepForm.text] using whole
      have opens : ¬ (index.text ++ [']'] ++ after).head?.any isQuote = true := by
        rw [List.append_assoc, index.head?_not_quote]
        exact Bool.false_ne_true
      rw [bracket, if_neg opens, Text.cut?_append index.closed]
      simp only [index.trim_text, Decimal.word?_eq_some_iff.2 ⟨index.number, rfl, rfl⟩]
      rfl

/-! ### Steps -/

section Steps

variable {total : Nat} {rest after : List Char}

theorem steps_dot {name : String} (h : bareKey? rest = some (name, after)) :
    steps total ('.' :: rest) = (steps total after).map (.key name :: ·) := by
  rw [steps, if_pos rfl]
  split
  · next missing => simp [h] at missing
  · next found =>
    rw [h] at found
    simp only [Option.some.injEq, Prod.mk.injEq] at found
    rw [found.1, found.2]

theorem steps_bracket {segment : Segment}
    (h : bracket (offsetOf total ('[' :: rest)) rest = .ok (segment, after)) :
    steps total ('[' :: rest) = (steps total after).map (segment :: ·) := by
  rw [steps, if_neg (by decide), if_pos rfl]
  split
  · next failed => simp [h] at failed
  · next found =>
    rw [h] at found
    simp only [Except.ok.injEq, Prod.mk.injEq] at found
    rw [found.1, found.2]

/-- What follows a bare key in a path does not go on with it. -/
theorem startsOff_stepsText (forms : List StepForm) : StartsOff isKeyChar (stepsText forms) := by
  intro c first
  cases forms with
  | nil => simp at first
  | cons form forms =>
    cases form <;>
      simp only [stepsText_cons, StepForm.text, List.cons_append, List.head?_cons,
        Option.mem_some_iff] at first <;>
      exact first ▸ by decide

/-- A step is a dot with a bare key or opens a bracket. -/
theorem StepForm.dotted_or_bracket (form : StepForm) :
    (∃ key, form = .dotted key) ∨ ∃ inner, form.text = '[' :: inner := by
  cases form with
  | dotted key => exact .inl ⟨key, rfl⟩
  | quoted key => exact .inr ⟨_, rfl⟩
  | indexed index => exact .inr ⟨_, rfl⟩

/-- A written step is read as what it denotes, and reading goes on behind it. Only a bare key could
run on. -/
theorem steps_text_append (total : Nat) (form : StepForm)
    (h : ∀ key, form = .dotted key → StartsOff isKeyChar rest) :
    steps total (form.text ++ rest) = (steps total rest).map (form.segment :: ·) := by
  rcases form.dotted_or_bracket with ⟨key, rfl⟩ | ⟨inner, opens⟩
  · exact steps_dot (bareKey?_chars key (h key rfl))
  · rw [opens, List.cons_append]
    exact steps_bracket (bracket_eq_ok_iff.2 ⟨form, by simp [opens], rfl⟩)

/-- **Exactly the written steps are read**, and as what they denote. -/
theorem steps_eq_ok_iff {cs : List Char} {path : Path} :
    steps total cs = .ok path ↔
      ∃ forms, stepsText forms = cs ∧ forms.map StepForm.segment = path := by
  constructor
  · intro h
    -- One case for each branch of the reader; the forms of the rest come from what is read of it.
    fun_induction steps total cs generalizing path with
    | case1 =>
      exact ⟨[], rfl, Except.ok.inj h⟩
    | case2 => simp at h
    | case3 rest name after found ih =>
      obtain ⟨path', read, rfl⟩ := map_eq_ok_iff.1 h
      obtain ⟨key, rfl, rfl, -⟩ := bareKey?_eq_some found
      obtain ⟨forms, rfl, rfl⟩ := ih read
      exact ⟨.dotted key :: forms, rfl, rfl⟩
    | case4 => simp at h
    | case5 rest segment after _ found ih =>
      obtain ⟨path', read, rfl⟩ := map_eq_ok_iff.1 h
      obtain ⟨form, whole, rfl⟩ := bracket_eq_ok_iff.1 found
      obtain ⟨forms, rfl, rfl⟩ := ih read
      exact ⟨form :: forms, whole.symm, rfl⟩
    | case6 => simp at h
  · rintro ⟨forms, rfl, rfl⟩
    induction forms with
    | nil => rw [stepsText_nil, steps]; rfl
    | cons form forms ih =>
      rw [stepsText_cons, steps_text_append total form fun _ _ => startsOff_stepsText forms, ih]
      rfl

end Steps

/-! ### Unique forms -/

theorem quoted_ne_index (key : QuotedForm) (index : IndexForm) (tail tail' : List Char) :
    key.text ++ tail ≠ index.text ++ tail' := by
  intro same
  have quoted : (key.text ++ tail).head?.any isQuote = true := isQuote_iff.2 key.isQuote
  rw [same, index.head?_not_quote] at quoted
  exact Bool.false_ne_true quoted

/-- **Steps are parted in one way only**, where none of them runs on as a bare key. -/
theorem StepForm.text_append_inj {form form' : StepForm} {rest rest' : List Char}
    (h : StartsOff isKeyChar rest) (h' : StartsOff isKeyChar rest')
    (same : form.text ++ rest = form'.text ++ rest') : form = form' ∧ rest = rest' := by
  cases form with
  | dotted key =>
    cases form' with
    | dotted key' =>
      simp only [StepForm.text, List.cons_append, List.cons.injEq, true_and] at same
      obtain ⟨chars, rests⟩ := run_append_inj key.keyChars key'.keyChars h h' same
      exact ⟨congrArg _ (KeyForm.ext chars), rests⟩
    | quoted key' => simp [StepForm.text] at same
    | indexed index' => simp [StepForm.text] at same
  | quoted key =>
    cases form' with
    | dotted key' => simp [StepForm.text] at same
    | quoted key' =>
      -- The closing quote is the first one, so both names end there.
      obtain ⟨quote, name, isQuote, absent⟩ := key
      obtain ⟨quote', name', isQuote', absent'⟩ := key'
      simp only [StepForm.text, QuotedForm.text, List.cons_append, List.append_assoc,
        List.nil_append, List.cons.injEq, true_and] at same
      obtain ⟨rfl, same⟩ := same
      obtain ⟨rfl, closed⟩ := (Text.firstAtEnd_singleton.2 absent).append_inj
        (Text.firstAtEnd_singleton.2 absent') (by simpa using same)
      exact ⟨rfl, (List.cons.inj closed).2⟩
    | indexed index' =>
      simp only [StepForm.text, List.cons_append, List.append_assoc, List.cons.injEq,
        true_and] at same
      exact absurd same (quoted_ne_index key index' _ _)
  | indexed index =>
    cases form' with
    | dotted key' => simp [StepForm.text] at same
    | quoted key' =>
      simp only [StepForm.text, List.cons_append, List.append_assoc, List.cons.injEq,
        true_and] at same
      exact absurd same.symm (quoted_ne_index key' index _ _)
    | indexed index' =>
      obtain ⟨inner, rests⟩ := index.closed.append_inj index'.closed
        (by simpa [StepForm.text] using same)
      exact ⟨congrArg _ (IndexForm.text_injective inner), rests⟩

theorem stepsText_injective : Function.Injective stepsText := by
  intro forms forms' same
  induction forms generalizing forms' with
  | nil =>
    cases forms' with
    | nil => rfl
    | cons form' forms' =>
      cases form' <;> simp [StepForm.text] at same
  | cons form forms ih =>
    cases forms' with
    | nil => cases form <;> simp [StepForm.text] at same
    | cons form' forms' =>
      obtain ⟨rfl, rests⟩ := StepForm.text_append_inj (startsOff_stepsText forms)
        (startsOff_stepsText forms') same
      rw [ih rests]

/-- **A text has one form at most.** -/
theorem PathForm.text_injective : Function.Injective PathForm.text := by
  rintro ⟨first, steps⟩ ⟨first', steps'⟩ same
  obtain ⟨chars, rests⟩ := run_append_inj first.keyChars first'.keyChars
    (startsOff_stepsText steps) (startsOff_stepsText steps') same
  rw [KeyForm.ext chars, stepsText_injective rests]

/-! ### Paths -/

/-- A written step ends with the last character of a key or with a bracket. -/
theorem StepForm.getLast?_not_blank (form : StepForm) :
    ∃ c, form.text.getLast? = some c ∧ Text.isBlank c = false := by
  cases form with
  | dotted key =>
    have last := List.getLast?_eq_some_getLast key.nonempty
    exact ⟨key.chars.getLast key.nonempty, by simp [text, List.getLast?_cons, last],
      (key.plain _ (List.getLast_mem key.nonempty)).2⟩
  | quoted key => exact ⟨']', List.getLast?_concat, by decide⟩
  | indexed index => exact ⟨']', List.getLast?_concat, by decide⟩

/-- A written path has no blanks at its ends. -/
theorem PathForm.trim_text (form : PathForm) : Text.trim form.text = form.text := by
  obtain ⟨first, steps⟩ := form
  apply Text.trim_eq_self_of_ends
  · intro c head
    cases chars : first.chars with
    | nil => exact absurd chars first.nonempty
    | cons d rest =>
      rw [text, chars, List.cons_append, List.head?_cons, Option.mem_some_iff] at head
      exact (first.plain c (by simp [chars, head])).2
  · intro c last
    rcases List.eq_nil_or_concat steps with rfl | ⟨front, step, rfl⟩
    · rw [text, stepsText_nil, List.append_nil] at last
      exact (first.plain c (List.mem_of_getLast? last)).2
    · obtain ⟨d, stepLast, notBlank⟩ := step.getLast?_not_blank
      have whole : (text ⟨first, front.concat step⟩).getLast? = some d := by
        simp [text, stepsText, List.getLast?_append, stepLast]
      obtain rfl : d = c := Option.some.inj (whole.symm.trans last)
      exact notBlank

theorem pathOfTrimmed_eq_ok_iff {cs : List Char} {path : Path} :
    pathOfTrimmed cs = .ok path ↔ ∃ form : PathForm, form.text = cs ∧ form.path = path := by
  constructor
  · intro h
    unfold pathOfTrimmed at h
    dsimp only at h
    split at h
    · simp at h
    · split at h
      · simp at h
      · next name after found =>
        obtain ⟨path', read, rfl⟩ := map_eq_ok_iff.1 h
        obtain ⟨key, rfl, rfl, -⟩ := bareKey?_eq_some found
        obtain ⟨forms, rfl, rfl⟩ := steps_eq_ok_iff.1 read
        exact ⟨⟨key, forms⟩, rfl, rfl⟩
  · rintro ⟨⟨first, forms⟩, rfl, rfl⟩
    have nonempty : PathForm.text ⟨first, forms⟩ ≠ [] := by
      simp [PathForm.text, first.nonempty]
    have key := bareKey?_chars first (startsOff_stepsText forms)
    have rest : ∀ total, steps total (stepsText forms) = .ok (forms.map StepForm.segment) :=
      fun total => steps_eq_ok_iff.2 ⟨forms, rfl, rfl⟩
    unfold pathOfTrimmed
    dsimp only
    rw [if_neg nonempty]
    simp only [PathForm.text, key, rest]
    rfl

/-- **An expression is a path exactly if the grammar has a form for it**, blanks at its two ends
apart; the path is what the form denotes, and there is only one form. -/
theorem parse_eq_ok_iff_form :
    (∀ (expression : String) (path : Path),
      Path.parse expression = .ok path ↔
        ∃ form : PathForm, form.text = Text.trim expression.toList ∧ form.path = path) ∧
      ∀ form form' : PathForm, form.text = form'.text → form = form' := by
  refine ⟨fun expression path => pathOfTrimmed_eq_ok_iff, fun form form' same => ?_⟩
  exact PathForm.text_injective same

example : (Path.parse " a.b[ +02 ]['c] \"d'] ").toOption =
    some [.key "a", .key "b", .index 2, .key "c] \"d"] := by decide +kernel

end PushNotice.Placeholder
