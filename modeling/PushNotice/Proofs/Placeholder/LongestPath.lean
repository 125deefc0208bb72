import Mathlib.Data.List.TakeDrop
import PushNotice.Proofs.Placeholder.Grammar

/-!
# PushNotice.Proofs.Placeholder.LongestPath

**Where an expression stops being a path.** The error of an expression that is no path is found
behind the longest beginning of it that is one (`LongestPath`). What is wrong there is said by what
is left: `NoStep` lists the ways in which no step follows a path.

The reader of steps takes up written steps as long as there are any, so what it is left with is
stuck: no step is at its start. That nothing longer is a path comes from reading the longer text:
the reader would come to the same place, and would have to find a step there.
-/

namespace PushNotice.Placeholder

/-! ### Where reading stops -/

/-- No step stands at the start of the text. -/
def Stuck (rest : List Char) : Prop :=
  ∀ (form : StepForm) (more : List Char), rest ≠ form.text ++ more

/-- What follows written steps does not go on with a bare key that is the last of them. -/
def EndsBefore (forms : List StepForm) (rest : List Char) : Prop :=
  ∀ key, forms.getLast? = some (.dotted key) → StartsOff isKeyChar rest

theorem bareKey?_eq_none_iff {cs : List Char} : bareKey? cs = none ↔ StartsOff isKeyChar cs := by
  constructor
  · intro missing
    cases cs with
    | nil => simp [StartsOff]
    | cons c cs =>
      intro d first
      obtain rfl : c = d := by simpa using first
      refine Bool.eq_false_iff.2 fun isKey => ?_
      simp [bareKey?, isKey] at missing
  · intro stop
    simp [bareKey?, takeWhile_of_startsOff stop]

theorem startsOff_chars_append (key : KeyForm) (more : List Char) :
    ¬ StartsOff isKeyChar (key.chars ++ more) := by
  intro stop
  cases chars : key.chars with
  | nil => exact key.nonempty chars
  | cons c cs =>
    have plain := key.keyChars c (chars ▸ List.mem_cons_self)
    simp [chars, StartsOff, plain] at stop

section Reading

variable {total : Nat} {cs rest : List Char}

theorem steps_dot_none (h : bareKey? cs = none) :
    steps total ('.' :: cs) = .error (noKey total cs) := by
  rw [steps, if_pos rfl]
  split
  · rfl
  · next found => simp [h] at found

theorem steps_bracket_error {error : PathError}
    (h : bracket (offsetOf total ('[' :: cs)) cs = .error error) :
    steps total ('[' :: cs) = .error error := by
  rw [steps, if_neg (by decide), if_pos rfl]
  split
  · next failed => exact congrArg _ (Except.error.inj (failed.symm.trans h))
  · next found => simp [h] at found

theorem steps_other {c : Char} (notDot : c ≠ '.') (notBracket : c ≠ '[') :
    steps total (c :: cs) = .error (noKey total (c :: cs)) := by
  rw [steps, if_neg notDot, if_neg notBracket]

theorem stuck_dot_iff : Stuck ('.' :: cs) ↔ bareKey? cs = none := by
  constructor
  · intro stuck
    refine Option.eq_none_iff_forall_ne_some.2 fun (name, after) found => ?_
    obtain ⟨key, rfl, -, -⟩ := bareKey?_eq_some found
    exact stuck (.dotted key) after rfl
  · intro missing form more whole
    rcases form.dotted_or_bracket with ⟨key, rfl⟩ | ⟨inner, opens⟩
    · simp only [StepForm.text, List.cons_append, List.cons.injEq, true_and] at whole
      exact startsOff_chars_append key more (whole ▸ bareKey?_eq_none_iff.1 missing)
    · simp [opens] at whole

theorem stuck_bracket_iff (opening : Nat) :
    Stuck ('[' :: cs) ↔ ∃ error, bracket opening cs = .error error := by
  constructor
  · intro stuck
    cases read : bracket opening cs with
    | error cause => exact ⟨cause, rfl⟩
    | ok result =>
      obtain ⟨segment, after⟩ := result
      obtain ⟨form, whole, -⟩ := bracket_eq_ok_iff.1 read
      exact absurd whole (stuck form after)
  · rintro ⟨cause, failed⟩ form more whole
    rw [bracket_eq_ok_iff.2 ⟨form, whole, rfl⟩] at failed
    simp at failed

theorem stuck_other {c : Char} (notDot : c ≠ '.') (notBracket : c ≠ '[') : Stuck (c :: cs) := by
  intro form more whole
  rcases form.dotted_or_bracket with ⟨key, rfl⟩ | ⟨inner, opens⟩
  · simp [StepForm.text, notDot] at whole
  · simp [opens, notBracket] at whole

/-- What comes behind a step is a seam of its own. -/
theorem endsBefore_cons_iff {form : StepForm} {forms : List StepForm} :
    EndsBefore (form :: forms) rest ↔
      (∀ key, form = .dotted key → StartsOff isKeyChar (stepsText forms ++ rest)) ∧
        EndsBefore forms rest := by
  cases forms with
  | nil => simp [EndsBefore]
  | cons next forms =>
    -- Behind `form` stands another step, and steps do not go on with a key.
    have seam : StartsOff isKeyChar (stepsText (next :: forms) ++ rest) := by
      have starts := startsOff_stepsText (next :: forms)
      rcases next.dotted_or_bracket with ⟨key, rfl⟩ | ⟨inner, opens⟩ <;>
        simp_all [StartsOff, StepForm.text]
    have last : (form :: next :: forms).getLast? = (next :: forms).getLast? := by simp
    rw [EndsBefore, EndsBefore, last]
    exact ⟨fun ends => ⟨fun _ _ => seam, ends⟩, And.right⟩

/-- Reading the text fails with the error, and does so where it is stuck behind written steps. -/
structure StopsBehind (total : Nat) (error : PathError) (cs : List Char) (forms : List StepForm)
    (rest : List Char) : Prop where
  whole : cs = stepsText forms ++ rest
  ends : EndsBefore forms rest
  stuck : Stuck rest
  failed : steps total rest = .error error

theorem StopsBehind.of_stuck {error : PathError} (stuck : Stuck cs)
    (failed : steps total cs = .error error) : StopsBehind total error cs [] cs :=
  ⟨rfl, by simp [EndsBefore], stuck, failed⟩

theorem StopsBehind.cons {error : PathError} {forms : List StepForm}
    (h : StopsBehind total error cs forms rest) (form : StepForm)
    (seam : ∀ key, form = .dotted key → StartsOff isKeyChar cs) :
    StopsBehind total error (form.text ++ cs) (form :: forms) rest where
  whole := by rw [stepsText_cons, List.append_assoc, ← h.whole]
  ends := endsBefore_cons_iff.2 ⟨h.whole ▸ seam, h.ends⟩
  stuck := h.stuck
  failed := h.failed

/-- **Reading fails where it is stuck**, behind all the steps that are there. -/
theorem exists_stopsBehind {error : PathError} (h : steps total cs = .error error) :
    ∃ forms rest, StopsBehind total error cs forms rest := by
  -- The branches of the reader: it is stuck in three of them, and has taken up a step in two.
  fun_induction steps total cs with
  | case1 => simp at h
  | case2 rest missing =>
    exact ⟨[], _, .of_stuck (stuck_dot_iff.2 missing) (h ▸ steps_dot_none missing)⟩
  | case3 rest name after found ih =>
    obtain ⟨key, rfl, rfl, stop⟩ := bareKey?_eq_some found
    obtain ⟨forms, left, stops⟩ := ih (map_eq_error_iff.1 h)
    exact ⟨.dotted key :: forms, left, stops.cons (.dotted key) fun _ _ => stop⟩
  | case4 rest _ _ broken =>
    exact ⟨[], _, .of_stuck ((stuck_bracket_iff _).2 ⟨_, broken⟩)
      (h ▸ steps_bracket_error broken)⟩
  | case5 rest segment after _ found ih =>
    obtain ⟨form, written, rfl⟩ := bracket_eq_ok_iff.1 found
    obtain ⟨forms, left, stops⟩ := ih (map_eq_error_iff.1 h)
    rw [written]
    refine ⟨form :: forms, left, stops.cons form ?_⟩
    rintro key rfl
    simp [StepForm.text] at written
  | case6 c rest notDot notBracket =>
    exact ⟨[], _, .of_stuck (stuck_other notDot notBracket) (h ▸ steps_other notDot notBracket)⟩

/-- Reading takes up written steps and goes on behind them. -/
theorem steps_stepsText_append {forms : List StepForm} (ends : EndsBefore forms rest) :
    steps total (stepsText forms ++ rest) =
      (steps total rest).map (forms.map StepForm.segment ++ ·) := by
  induction forms with
  | nil => cases h : steps total rest <;> simp [Except.map, h]
  | cons form forms ih =>
    obtain ⟨seam, ends⟩ := endsBefore_cons_iff.1 ends
    rw [stepsText_cons, List.append_assoc, steps_text_append total form seam, ih ends]
    cases steps total rest <;> simp [Except.map]

theorem EndsBefore.of_prefix {forms : List StepForm} {start : List Char}
    (ends : EndsBefore forms rest) (begins : start <+: rest) : EndsBefore forms start := by
  intro key last c first
  obtain ⟨more, rfl⟩ := begins
  exact ends key last c (by simp [List.head?_append, Option.mem_def.1 first])

/-- Where the reader is stuck behind written steps, no longer steps are written. -/
theorem prefix_of_stuck {forms forms' : List StepForm} (ends : EndsBefore forms rest)
    (stuck : Stuck rest) (begins : stepsText forms' <+: stepsText forms ++ rest) :
    stepsText forms' <+: stepsText forms := by
  rcases List.prefix_or_prefix_of_prefix begins (List.prefix_append _ _) with shorter | longer
  · exact shorter
  · obtain ⟨beyond, same⟩ := longer
    rw [← same, List.prefix_append_right_inj] at begins
    -- Reading the longer steps comes to the same place, and would find a step there.
    have read : steps 0 (stepsText forms ++ beyond) = .ok (forms'.map StepForm.segment) :=
      steps_eq_ok_iff.2 ⟨forms', same.symm, rfl⟩
    rw [steps_stepsText_append (ends.of_prefix begins)] at read
    obtain ⟨path, read, -⟩ := map_eq_ok_iff.1 read
    obtain ⟨left, rfl, -⟩ := steps_eq_ok_iff.1 read
    cases left with
    | nil => simp [← same]
    | cons form left =>
      obtain ⟨more, whole⟩ := begins
      exact absurd (by simp [← whole]) (stuck form (stepsText left ++ more))

end Reading

/-! ### What stands where reading stops -/

/-- What is wrong with a text at whose start a step should stand and none does. The offset is that
of the text in the expression. -/
inductive NoStep (offset : Nat) : List Char → PathError → Prop where
  /-- Nothing follows a dot. -/
  | dotAtEnd : NoStep offset ['.'] (.emptySegment (offset + 1))
  /-- A second dot follows a dot. -/
  | dotBeforeDot (more : List Char) :
      NoStep offset ('.' :: '.' :: more) (.emptySegment (offset + 1))
  /-- Another character follows a dot. -/
  | dotBeforeOther {c : Char} (more : List Char) (notDot : c ≠ '.') :
      NoStep offset ('.' :: c :: more) (.unexpectedCharacter c (offset + 1))
  /-- A bracket is closed, but holds no index and does not start with a quote. -/
  | noIndex {inner : List Char} (more : List Char)
      (unquoted : ∀ c ∈ inner.head?, c ≠ '"' ∧ c ≠ '\'') (first : ']' ∉ inner) :
      NoStep offset ('[' :: inner ++ ']' :: more)
        (.invalidIndex (String.ofList (Text.trim inner)) offset)
  /-- A bracket starts with a quote. -/
  | openQuote {quote : Char} (more : List Char) (isQuote : quote = '"' ∨ quote = '\'') :
      NoStep offset ('[' :: quote :: more) (.unclosedBracket offset)
  /-- A bracket is not closed. -/
  | openBracket {more : List Char} (unclosed : ']' ∉ more) :
      NoStep offset ('[' :: more) (.unclosedBracket offset)
  /-- There is neither a dot nor a bracket. -/
  | other {c : Char} (more : List Char) (notDot : c ≠ '.') (notBracket : c ≠ '[') :
      NoStep offset (c :: more) (.unexpectedCharacter c offset)

section Stopped

variable {offset : Nat} {rest : List Char} {error : PathError}

theorem offsetOf_add (offset : Nat) (cs : List Char) :
    offsetOf (offset + Text.byteLength cs) cs = offset :=
  Nat.add_sub_cancel offset _

theorem offsetOf_dot (offset : Nat) (cs : List Char) :
    offsetOf (offset + Text.byteLength ('.' :: cs)) cs = offset + 1 := by
  have one : ('.' : Char).utf8Size = 1 := rfl
  rw [Text.byteLength_cons, one, ← Nat.add_assoc, offsetOf_add]

theorem noStep_dot_iff :
    NoStep offset ('.' :: rest) error ↔
      noKey (offset + Text.byteLength ('.' :: rest)) rest = error := by
  constructor
  · intro h
    cases h with
    | dotAtEnd => rw [noKey, offsetOf_dot]
    | dotBeforeDot more => rw [noKey, offsetOf_dot, if_pos rfl]
    | dotBeforeOther more notDot => rw [noKey, offsetOf_dot, if_neg notDot]
    | other more notDot => exact absurd rfl notDot
  · rintro rfl
    cases rest with
    | nil => exact .dotAtEnd
    | cons c more =>
      rw [noKey, offsetOf_dot]
      by_cases isDot : c = '.'
      · rw [if_pos isDot, isDot]
        exact .dotBeforeDot more
      · rw [if_neg isDot]
        exact .dotBeforeOther more isDot

/-- A bracket that starts with a quote can only be open. -/
theorem eq_unclosedBracket_of_quote (quoted : rest.head?.any isQuote = true)
    (failed : bracket offset rest = .error error) : error = .unclosedBracket offset := by
  rw [bracket, if_pos quoted] at failed
  split at failed
  · simp at failed
  · exact (Except.error.inj failed).symm

theorem noStep_bracket (failed : bracket offset rest = .error error) :
    NoStep offset ('[' :: rest) error := by
  by_cases quoted : rest.head?.any isQuote = true
  · obtain rfl := eq_unclosedBracket_of_quote quoted failed
    cases rest with
    | nil => simp at quoted
    | cons quote more => exact .openQuote more (isQuote_iff.1 quoted)
  · rw [bracket, if_neg quoted] at failed
    split at failed
    · next uncut =>
      obtain rfl := Except.error.inj failed
      refine .openBracket fun mem => Text.cut?_eq_none_iff.1 uncut ?_
      obtain ⟨inner, more, rfl⟩ := List.append_of_mem mem
      exact ⟨inner, more, by simp⟩
    · next inner more cut =>
      split at failed
      · simp at failed
      · obtain rfl := Except.error.inj failed
        obtain ⟨rfl, first⟩ := Text.cut?_eq_some_iff.1 cut
        have notQuote : ∀ c ∈ inner.head?, c ≠ '"' ∧ c ≠ '\'' := by
          intro c head
          have none : ¬ isQuote c = true := fun isQuote => quoted <| by
            simp [List.head?_append, Option.mem_def.1 head, isQuote]
          simpa [isQuote_iff] using none
        simpa using NoStep.noIndex more notQuote (Text.firstAtEnd_singleton.1 first)

/-- What is wrong with a bracket is what the reader says. -/
theorem NoStep.eq_of_bracket {cause : PathError} (h : NoStep offset ('[' :: rest) error)
    (failed : bracket offset rest = .error cause) : cause = error := by
  generalize whole : '[' :: rest = text at h
  cases h with
  | dotAtEnd | dotBeforeDot | dotBeforeOther => simp at whole
  | other more notDot notBracket => exact absurd (List.cons.inj whole).1.symm notBracket
  | @noIndex inner more notQuote first =>
    obtain rfl : rest = inner ++ ']' :: more := (List.cons.inj whole).2
    have unquoted : ¬ (inner ++ ']' :: more).head?.any isQuote = true := by
      cases inner with
      | nil => simp [isQuote]
      | cons c inner => simpa [isQuote_iff] using notQuote
    have cut := Text.cut?_append (Text.firstAtEnd_singleton.2 first) more
    rw [List.append_assoc, List.singleton_append] at cut
    rw [bracket, if_neg unquoted, cut] at failed
    dsimp only at failed
    split at failed
    · simp at failed
    · exact (Except.error.inj failed).symm
  | @openQuote quote more isQuote =>
    obtain rfl : rest = quote :: more := (List.cons.inj whole).2
    have quoted : (quote :: more).head?.any Placeholder.isQuote = true := isQuote_iff.2 isQuote
    exact eq_unclosedBracket_of_quote quoted failed
  | @openBracket more unclosed =>
    obtain rfl : rest = more := (List.cons.inj whole).2
    by_cases quoted : rest.head?.any isQuote = true
    · exact eq_unclosedBracket_of_quote quoted failed
    · have uncut : Text.cut? [']'] rest = none := Text.cut?_eq_none_iff.2 fun closes =>
        unclosed (closes.subset List.mem_cons_self)
      rw [bracket, if_neg quoted, uncut] at failed
      exact (Except.error.inj failed).symm

/-- **Where the reader is stuck, its error says what is wrong there.** -/
theorem steps_eq_error_iff (stuck : Stuck rest) (nonempty : rest ≠ []) :
    steps (offset + Text.byteLength rest) rest = .error error ↔ NoStep offset rest error := by
  cases rest with
  | nil => exact absurd rfl nonempty
  | cons c rest =>
    by_cases isDot : c = '.'
    · subst isDot
      rw [steps_dot_none (stuck_dot_iff.1 stuck), noStep_dot_iff, Except.error.injEq]
    · by_cases isBracket : c = '['
      · subst isBracket
        obtain ⟨cause, read⟩ := (stuck_bracket_iff offset).1 stuck
        rw [steps_bracket_error ((offsetOf_add offset ('[' :: rest)).symm ▸ read)]
        constructor
        · intro same
          exact Except.error.inj same ▸ noStep_bracket read
        · intro h
          rw [h.eq_of_bracket read]
      · rw [steps_other isDot isBracket, noKey, if_neg isDot, offsetOf_add, Except.error.injEq]
        constructor
        · rintro rfl
          exact .other rest isDot isBracket
        · intro h
          cases h with
          | other => rfl
          | _ => contradiction

end Stopped

/-! ### The longest path -/

/-- The text is a path of the grammar. -/
def IsPath (text : List Char) : Prop :=
  ∃ form : PathForm, form.text = text

/-- No beginning of the text is a path longer than this one, which is itself a path, or empty if
there is none. -/
structure LongestPath (text valid : List Char) : Prop where
  start : valid <+: text
  path : valid = [] ∨ IsPath valid
  longest : ∀ other, IsPath other → other <+: text →
    Text.byteLength other ≤ Text.byteLength valid

/-- A path is the steps behind a dot that stands before the text. -/
theorem PathForm.dot_text (form : PathForm) :
    '.' :: form.text = stepsText (.dotted form.first :: form.steps) := rfl

theorem pathOfTrimmed_eq_steps {cs : List Char} (nonempty : cs ≠ []) :
    pathOfTrimmed cs = steps (Text.byteLength cs) ('.' :: cs) := by
  unfold pathOfTrimmed
  dsimp only
  rw [if_neg nonempty]
  split
  · next missing => exact (steps_dot_none missing).symm
  · next found => exact (steps_dot found).symm

theorem not_isPath_iff {cs : List Char} :
    ¬ IsPath cs ↔ ∃ error, pathOfTrimmed cs = .error error := by
  constructor
  · intro malformed
    cases read : pathOfTrimmed cs with
    | error cause => exact ⟨cause, rfl⟩
    | ok path =>
      obtain ⟨form, written, -⟩ := pathOfTrimmed_eq_ok_iff.1 read
      exact absurd ⟨form, written⟩ malformed
  · rintro ⟨cause, failed⟩ ⟨form, written⟩
    simp [pathOfTrimmed_eq_ok_iff.2 ⟨form, written, rfl⟩] at failed

/-- A text that is no path is the longest path at its start and what stands there in place of a
step; there is no path at all where not even a first key is found. -/
theorem exists_longestPath {cs : List Char} {error : PathError} (nonempty : cs ≠ [])
    (h : pathOfTrimmed cs = .error error) :
    ∃ valid rest, cs = valid ++ rest ∧ LongestPath cs valid ∧
      (valid = [] → pathOfTrimmed cs = .error (noKey (Text.byteLength cs) cs)) ∧
      (valid ≠ [] → Stuck rest ∧ rest ≠ [] ∧
        pathOfTrimmed cs = steps (Text.byteLength cs) rest) := by
  -- With a dot before it, the first key is a step like the others.
  have steps_eq := pathOfTrimmed_eq_steps nonempty
  obtain ⟨forms, rest, whole, ends, stuck, failed⟩ := exists_stopsBehind (steps_eq ▸ h)
  have shorter : ∀ form : PathForm, form.text <+: cs → '.' :: form.text <+: stepsText forms := by
    rintro form ⟨more, rfl⟩
    rw [form.dot_text]
    exact prefix_of_stuck ends stuck ⟨more, by rw [← whole, ← form.dot_text, List.cons_append]⟩
  -- Where the reader has taken up nothing, not even the first key is there.
  cases forms with
  | nil =>
    obtain rfl : '.' :: cs = rest := whole
    refine ⟨[], cs, rfl, ⟨List.nil_prefix, .inl rfl, ?_⟩, fun _ => ?_, fun some => absurd rfl some⟩
    · rintro - ⟨form, rfl⟩ begins
      simpa using shorter form begins
    · rw [steps_eq, steps_dot_none (stuck_dot_iff.1 stuck)]
  | cons form forms =>
    rcases form.dotted_or_bracket with ⟨key, rfl⟩ | ⟨inner, opens⟩
    · let valid : PathForm := ⟨key, forms⟩
      obtain rfl : cs = valid.text ++ rest := by
        simpa [StepForm.text, PathForm.text, valid] using whole
      have nonempty : valid.text ≠ [] := by simp [PathForm.text, valid, key.nonempty]
      refine ⟨valid.text, rest, rfl, ⟨List.prefix_append _ _, .inr ⟨valid, rfl⟩, ?_⟩,
        fun none => absurd none nonempty, fun _ => ⟨stuck, ?_, h.trans failed.symm⟩⟩
      · rintro - ⟨other, rfl⟩ begins
        obtain ⟨more, longer⟩ := (List.cons_prefix_cons.1 (shorter other begins)).2
        have lengths := congrArg Text.byteLength longer
        rw [Text.byteLength_append] at lengths
        exact Nat.le.intro lengths
      · rintro rfl
        simp [steps] at failed
    · simp [opens] at whole

/-- The offset of an error, if it has one. -/
def PathError.position? : PathError → Option Nat
  | .emptyExpression => none
  | .emptySegment position | .unclosedBracket position | .invalidIndex _ position
  | .unexpectedCharacter _ position => some position

theorem noKey_whole (c : Char) (more : List Char) :
    noKey (Text.byteLength (c :: more)) (c :: more) =
      if c = '.' then .emptySegment 0 else .unexpectedCharacter c 0 := by
  simp [noKey, offsetOf]

/-- What is missing is missing at a character of the text, or at its end. -/
theorem NoStep.position {offset : Nat} {rest : List Char} {error : PathError}
    (h : NoStep offset rest error) :
    ∃ before, before <+: rest ∧ error.position? = some (offset + Text.byteLength before) := by
  have dot : ∀ more, ['.'] <+: '.' :: more := fun more => ⟨more, rfl⟩
  cases h with
  | dotAtEnd => exact ⟨_, dot _, rfl⟩
  | dotBeforeDot more => exact ⟨_, dot _, rfl⟩
  | dotBeforeOther more => exact ⟨_, dot _, rfl⟩
  | noIndex | openQuote | openBracket | other => exact ⟨[], List.nil_prefix, rfl⟩

/-- **The error of a malformed expression is found behind the longest path at its start.** Without
one the first character is wrong. Behind one no step follows, and the error is what is wrong with
what stands there in its place. The offset is that of a character, or the end of the expression. -/
theorem parse_error_behind_longestPath (expression : String)
    (nonempty : Text.trim expression.toList ≠ [])
    (malformed : ¬ IsPath (Text.trim expression.toList)) :
    ∃ valid rest, Text.trim expression.toList = valid ++ rest ∧
      LongestPath (Text.trim expression.toList) valid ∧
      (valid = [] → ∃ c more, rest = c :: more ∧
        Path.parse expression =
          .error (if c = '.' then .emptySegment 0 else .unexpectedCharacter c 0)) ∧
      (valid ≠ [] → ∀ error,
        Path.parse expression = .error error ↔ NoStep (Text.byteLength valid) rest error) ∧
      ∃ error before, Path.parse expression = .error error ∧
        before <+: Text.trim expression.toList ∧
        error.position? = some (Text.byteLength before) := by
  unfold Path.parse
  generalize Text.trim expression.toList = cs at *
  obtain ⟨error, failed⟩ := not_isPath_iff.1 malformed
  obtain ⟨valid, rest, rfl, longest, atStart, behind⟩ := exists_longestPath nonempty failed
  have stopped : valid ≠ [] → ∀ error, pathOfTrimmed (valid ++ rest) = .error error ↔
      NoStep (Text.byteLength valid) rest error := by
    intro some error
    obtain ⟨stuck, left, read⟩ := behind some
    rw [read, Text.byteLength_append, steps_eq_error_iff stuck left]
  refine ⟨valid, rest, rfl, longest, fun none => ?_, stopped, error, ?_⟩
  · subst none
    cases rest with
    | nil => exact absurd rfl nonempty
    | cons c more => exact ⟨c, more, rfl, noKey_whole c more ▸ atStart rfl⟩
  · by_cases none : valid = []
    · subst none
      refine ⟨[], failed, List.nil_prefix, ?_⟩
      cases rest with
      | nil => exact absurd rfl nonempty
      | cons c more =>
        have whole := failed.symm.trans (atStart rfl)
        rw [List.nil_append, noKey_whole, Except.error.injEq] at whole
        rw [whole]
        split <;> rfl
    · obtain ⟨before, begins, position⟩ := ((stopped none error).1 failed).position
      exact ⟨valid ++ before, failed, (List.prefix_append_right_inj _).2 begins,
        by rw [position, Text.byteLength_append]⟩

/-- The longest path of `é[0][ x ]` ends before the second bracket, which holds no index. -/
theorem parse_error_behind_longestPath_invalidIndex :
    Text.trim " é[0][ x ]".toList ≠ [] ∧ ¬ IsPath (Text.trim " é[0][ x ]".toList) ∧
      ∃ valid rest, Text.trim " é[0][ x ]".toList = valid ++ rest ∧
        LongestPath (Text.trim " é[0][ x ]".toList) valid ∧
        NoStep (Text.byteLength valid) rest (.invalidIndex "x" 5) := by
  have parsed : Path.parse " é[0][ x ]" = .error (.invalidIndex "x" 5) := by decide +kernel
  have nonempty : Text.trim " é[0][ x ]".toList ≠ [] := by decide +kernel
  have malformed := not_isPath_iff.2 ⟨_, parsed⟩
  obtain ⟨valid, rest, whole, longest, atStart, behind, -⟩ :=
    parse_error_behind_longestPath " é[0][ x ]" nonempty malformed
  refine ⟨nonempty, malformed, valid, rest, whole, longest, (behind ?_ _).1 parsed⟩
  intro none
  obtain ⟨c, more, -, first⟩ := atStart none
  rw [parsed] at first
  split at first <;> simp at first

end PushNotice.Placeholder
