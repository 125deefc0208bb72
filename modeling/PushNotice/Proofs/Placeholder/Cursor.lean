import PushNotice.Placeholder.Cursor
import PushNotice.Proofs.Placeholder.LongestPath

/-!
# PushNotice.Proofs.Placeholder.Cursor

**Reading in place is safe and goes on.** Where characters are left of the expression, each reader
by offsets reads what its counterpart reads from those characters, and never misses a slice. So a
cursor that is between two characters is so after a step, and further on.
-/

namespace PushNotice.Placeholder

open Text (sliceFrom? sliceTo? byteAt? offsetWhere? chars byteLength byteLength_append LeftAt)

section Readers

variable {expr : String.Slice} {position : Nat} {cs : List Char}

/-! ### Offsets -/

/-- The offset at which characters are left is known from how many bytes they have. -/
theorem offsetOf_of_leftAt (h : LeftAt expr position cs) :
    offsetOf (byteLength (chars expr)) cs = position := by
  rw [offsetOf, ← Text.utf8ByteSize_eq, ← h.add_byteLength, Nat.add_sub_cancel]

/-- A character is looked for where the text is cut at it. -/
theorem offsetWhere?_eq_cut? (c : Char) (s : String.Slice) :
    offsetWhere? (· == c) s =
      (Text.cut? [c] (chars s)).map fun cut => byteLength cut.1 := by
  cases cut : Text.cut? [c] (chars s) with
  | none =>
    refine Text.offsetWhere?_of_forall fun d mem => beq_false_of_ne ?_
    rintro rfl
    obtain ⟨before, rest, whole⟩ := List.append_of_mem mem
    exact Text.cut?_eq_none_iff.1 cut ⟨before, rest, by simp [whole]⟩
  | some parts =>
    obtain ⟨before, rest⟩ := parts
    obtain ⟨whole, first⟩ := Text.cut?_eq_some_iff.1 cut
    have absent := Text.firstAtEnd_singleton.1 first
    have other : ∀ d ∈ before, (d == c) = false := fun d mem =>
      beq_false_of_ne fun same => absent (same ▸ mem)
    exact Text.offsetWhere?_of_append (whole.trans (List.append_assoc _ _ _)) other
      (beq_self_eq_true c)

/-! ### Readers -/

theorem readKey_eq (h : LeftAt expr position cs) :
    readKey expr position = some (String.ofList (cs.takeWhile isKeyChar),
      position + byteLength (cs.takeWhile isKeyChar)) := by
  obtain ⟨rest, found, rfl⟩ := h.exists_sliceFrom?
  obtain ⟨key, taken, name⟩ := Text.sliceTo?_of_append
    (List.takeWhile_append_dropWhile (p := isKeyChar) (l := chars rest)).symm
  simp only [readKey, found, Text.getD_offsetWhere?_not, taken, Option.bind_eq_bind,
    Option.bind_some, Option.pure_def]
  rw [Text.copy_eq, name]

/-- Both readers find the same bare key, or none; the one in place gives an empty one then. -/
theorem readKey_cases (h : LeftAt expr position cs) :
    (bareKey? cs = none ∧ readKey expr position = some ("", position)) ∨
    ∃ (key : KeyForm) (after : List Char), cs = key.chars ++ after ∧
      bareKey? cs = some (String.ofList key.chars, after) ∧
      readKey expr position =
        some (String.ofList key.chars, position + byteLength key.chars) := by
  rw [readKey_eq h]
  cases read : bareKey? cs with
  | none =>
    rw [takeWhile_of_startsOff (bareKey?_eq_none_iff.1 read)]
    exact .inl ⟨rfl, rfl⟩
  | some result =>
    obtain ⟨name, after⟩ := result
    obtain ⟨key, rfl, rfl, stop⟩ := bareKey?_eq_some read
    rw [takeWhile_run key.keyChars stop]
    exact .inr ⟨key, after, rfl, rfl, rfl⟩

theorem KeyForm.isEmpty_ofList (key : KeyForm) : (String.ofList key.chars).isEmpty = false := by
  rw [Bool.eq_false_iff, ne_eq, String.isEmpty_iff, String.ofList_eq_empty_iff]
  exact key.nonempty

theorem missingKey_eq (h : LeftAt expr position cs) :
    missingKey expr position = some (noKey (byteLength (chars expr)) cs) := by
  obtain ⟨rest, found, rfl⟩ := h.exists_sliceFrom?
  have first : rest.front? = (chars rest).head? := String.Slice.front?_eq
  simp only [missingKey, found, first, Option.bind_eq_bind, Option.bind_some, Option.pure_def]
  unfold noKey
  rw [offsetOf_of_leftAt h]
  cases chars rest <;> rfl

/-- What is read of a bracket, with the offset behind it in place of what is left there. -/
def behind (total : Nat) (read : Segment × List Char) : Segment × Nat :=
  (read.1, offsetOf total read.2)

section Bracket

variable {rest : String.Slice} (inside : LeftAt expr (position + 1) cs) (held : chars rest = cs)

include inside held

theorem readQuotedKey_eq {quote : Char} {more : List Char} (opens : cs = quote :: more)
    (isQuote : isQuote quote = true) :
    readQuotedKey expr rest quote position =
      some ((bracket position cs).map (behind (byteLength (chars expr)))) := by
  subst opens
  have one : quote.utf8Size = 1 := by
    rcases isQuote_iff.1 isQuote with rfl | rfl <;> rfl
  have bodyLeft : LeftAt rest 1 more := ⟨[quote], held, by simp [one]⟩
  obtain ⟨body, bodyFound, bodyHeld⟩ := bodyLeft.exists_sliceFrom?
  have quoted : (quote :: more).head?.any Placeholder.isQuote = true := isQuote
  simp only [readQuotedKey, bodyFound, offsetWhere?_eq_cut?, bodyHeld, Option.bind_eq_bind,
    Option.bind_some, Option.pure_def]
  rw [bracket, if_pos quoted, quotedKey?, if_pos isQuote]
  cases cut : Text.cut? [quote] more with
  | none => rfl
  | some parts =>
    obtain ⟨name, after⟩ := parts
    have whole := Text.cut?_eq_some cut
    obtain ⟨key, taken, keyHeld⟩ :=
      Text.sliceTo?_of_append (bodyHeld.trans (whole.trans (List.append_assoc _ _ _)))
    have closed : LeftAt expr (position + 1 + 1 + byteLength name + 1) after := by
      have behindQuote : LeftAt expr (position + 1) ((quote :: name ++ [quote]) ++ after) := by
        simpa [whole] using inside
      have length : byteLength (quote :: name ++ [quote]) = 1 + byteLength name + 1 := by
        simp [one, Nat.add_assoc]
      have offset : position + 1 + byteLength (quote :: name ++ [quote]) =
          position + 1 + 1 + byteLength name + 1 := by omega
      exact offset ▸ behindQuote.advance
    have test := closed.byteAt?_eq_some_iff (m := ']') (by decide)
    simp only [Option.map_some, test, taken, Option.bind_some]
    cases after with
    | nil => rfl
    | cons c after =>
      by_cases isBracket : c = ']'
      · subst isBracket
        have shut := closed.tail rfl
        simp only [List.head?_cons, if_true, Except.map, behind, offsetOf_of_leftAt shut,
          Text.copy_eq, keyHeld]
      · have notBracket : ¬ some c = some ']' := by simpa using isBracket
        rw [List.head?_cons, if_neg notBracket]
        split
        · next unread => simp [isBracket] at unread
        · rfl

theorem readIndex_eq (unquoted : ¬ cs.head?.any isQuote = true) :
    readIndex rest position =
      some ((bracket position cs).map (behind (byteLength (chars expr)))) := by
  simp only [readIndex, offsetWhere?_eq_cut?, held, Option.bind_eq_bind, Option.pure_def]
  rw [bracket, if_neg unquoted]
  cases cut : Text.cut? [']'] cs with
  | none => rfl
  | some parts =>
    obtain ⟨text, after⟩ := parts
    have whole := Text.cut?_eq_some cut
    obtain ⟨inner, taken, innerHeld⟩ :=
      Text.sliceTo?_of_append (held.trans (whole.trans (List.append_assoc _ _ _)))
    have closed : LeftAt expr (position + 1 + byteLength text + 1) after := by
      have behindBracket : LeftAt expr (position + 1) ((text ++ [']']) ++ after) := whole ▸ inside
      have length : byteLength (text ++ [']']) = byteLength text + 1 := byteLength_append text [']']
      rw [Nat.add_assoc, ← length]
      exact behindBracket.advance
    simp only [Option.map_some, taken, Option.bind_some, innerHeld]
    cases Decimal.word? (Text.trim text) with
    | none => rfl
    | some n => simp only [Except.map, behind, offsetOf_of_leftAt closed]

end Bracket

theorem readBracket_eq (h : LeftAt expr position ('[' :: cs)) :
    readBracket expr position =
      some ((bracket position cs).map (behind (byteLength (chars expr)))) := by
  have inside : LeftAt expr (position + 1) cs := h.tail rfl
  obtain ⟨rest, found, held⟩ := inside.exists_sliceFrom?
  have first : rest.front? = cs.head? := held ▸ String.Slice.front?_eq
  simp only [readBracket, found, first, Option.bind_eq_bind, Option.bind_some]
  by_cases quoted : cs.head?.any isQuote = true
  · cases cs with
    | nil => simp at quoted
    | cons quote more =>
      have isQuote : isQuote quote = true := quoted
      simp only [List.head?_cons, Option.filter, isQuote, if_true]
      exact readQuotedKey_eq inside held rfl isQuote
  · have none_found : cs.head?.filter isQuote = none := by
      cases cs <;> simp_all
    rw [none_found]
    exact readIndex_eq inside held quoted

/-- **A step is read in place as it is written**, and the offset behind it is that of what follows.
Where there is none the readers fail alike. -/
theorem readStep_cases (h : LeftAt expr position cs) (nonempty : cs ≠ []) :
    (∃ error, readStep expr position = some (.error error) ∧
      steps (byteLength (chars expr)) cs = .error error) ∨
    ∃ (form : StepForm) (after : List Char), cs = form.text ++ after ∧
      readStep expr position = some (.ok (form.segment, position + byteLength form.text)) ∧
      steps (byteLength (chars expr)) cs =
        (steps (byteLength (chars expr)) after).map (form.segment :: ·) := by
  obtain ⟨c, more, rfl⟩ := List.exists_cons_of_ne_nil nonempty
  obtain ⟨byte, found⟩ := h.exists_byteAt? nonempty
  have test : ∀ m : Char, m.toNat < 128 → (byte = m.toUInt8 ↔ c = m) := fun m ascii => by
    simpa [found] using h.byteAt?_eq_some_iff ascii
  simp only [readStep, found, Option.bind_eq_bind, Option.bind_some, Option.pure_def,
    test '.' (by decide), test '[' (by decide)]
  by_cases isDot : c = '.'
  · subst isDot
    have inside : LeftAt expr (position + 1) more := h.tail rfl
    rw [if_pos rfl]
    rcases readKey_cases inside with ⟨missing, read⟩ | ⟨key, after, rfl, found, read⟩
    · left
      rw [read, missingKey_eq inside]
      exact ⟨_, rfl, steps_dot_none missing⟩
    · right
      refine ⟨.dotted key, after, rfl, ?_, steps_dot found⟩
      simp only [read, Option.bind_some, key.isEmpty_ofList, Bool.false_eq_true, if_false]
      rw [Nat.add_assoc]
      rfl
  · rw [if_neg isDot]
    by_cases isBracket : c = '['
    · subst isBracket
      rw [if_pos rfl, readBracket_eq h]
      cases read : bracket position more with
      | error cause =>
        left
        refine ⟨cause, rfl, steps_bracket_error ?_⟩
        rw [offsetOf_of_leftAt h, read]
      | ok result =>
        right
        obtain ⟨segment, after⟩ := result
        obtain ⟨form, written, rfl⟩ := bracket_eq_ok_iff.1 read
        refine ⟨form, after, written, ?_, steps_bracket (by rw [offsetOf_of_leftAt h, read])⟩
        have behindForm := LeftAt.advance (written ▸ h)
        rw [← offsetOf_of_leftAt behindForm]
        rfl
    · left
      rw [if_neg isBracket, missingKey_eq h]
      exact ⟨_, rfl, steps_other isDot isBracket⟩

end Readers

/-! ### The cursor -/

/-- The cursors that reading an expression comes to, behind the first key and behind each step. -/
inductive Reached (expr : String.Slice) : Cursor → Prop where
  | first {name : String} {position : Nat} (read : readKey expr 0 = some (name, position))
      (nonempty : name.isEmpty = false) : Reached expr ⟨position, [.key name]⟩
  | step {cursor : Cursor} {segment : Segment} {next : Nat} (before : Reached expr cursor)
      (inside : cursor.position < expr.utf8ByteSize)
      (read : readStep expr cursor.position = some (.ok (segment, next))) :
      Reached expr ⟨next, cursor.path ++ [segment]⟩

/-- What is before the cursor is a path as it is written, and `rest` is left behind it. -/
structure Covers (expr : String.Slice) (cursor : Cursor) (form : PathForm) (rest : List Char) :
    Prop where
  whole : chars expr = form.text ++ rest
  position : byteLength form.text = cursor.position
  path : form.path = cursor.path

section Covers

variable {expr : String.Slice} {cursor : Cursor} {form : PathForm} {rest : List Char}

theorem Covers.leftAt (h : Covers expr cursor form rest) : LeftAt expr cursor.position rest :=
  ⟨form.text, h.whole, h.position⟩

/-- A path goes on with a step that is written behind it. -/
theorem Covers.append {step : StepForm} {after : List Char}
    (h : Covers expr cursor form (step.text ++ after)) :
    Covers expr ⟨cursor.position + byteLength step.text, cursor.path ++ [step.segment]⟩
      ⟨form.first, form.steps ++ [step]⟩ after := by
  have text : PathForm.text ⟨form.first, form.steps ++ [step]⟩ = form.text ++ step.text := by
    simp [PathForm.text, stepsText, List.append_assoc]
  refine ⟨?_, ?_, ?_⟩
  · rw [text, h.whole, List.append_assoc]
  · rw [text, byteLength_append, h.position]
  · rw [← h.path]
    simp [PathForm.path]

/-- **One step of the cursor** goes on over a step as it is written, or meets an error. -/
theorem Covers.readStep_cases (h : Covers expr cursor form rest)
    (inside : cursor.position < expr.utf8ByteSize) :
    (∃ error, readStep expr cursor.position = some (.error error)) ∨
    ∃ (step : StepForm) (after : List Char),
      readStep expr cursor.position =
        some (.ok (step.segment, cursor.position + byteLength step.text)) ∧
      Covers expr ⟨cursor.position + byteLength step.text, cursor.path ++ [step.segment]⟩
        ⟨form.first, form.steps ++ [step]⟩ after := by
  rcases Placeholder.readStep_cases h.leftAt (h.leftAt.lt_utf8ByteSize_iff.1 inside) with
    ⟨error, failed, -⟩ | ⟨step, after, rfl, read, -⟩
  · exact .inl ⟨error, failed⟩
  · exact .inr ⟨step, after, read, h.append⟩

/-- **Every cursor that is reached covers what is before it.** -/
theorem Reached.covers (h : Reached expr cursor) : ∃ form rest, Covers expr cursor form rest := by
  induction h with
  | @first name position read nonempty =>
    rcases readKey_cases (Text.leftAt_zero expr) with ⟨-, none⟩ | ⟨key, after, whole, -, found⟩
    · obtain ⟨rfl, -⟩ := Prod.mk.inj (Option.some.inj (none.symm.trans read))
      simp at nonempty
    · obtain ⟨rfl, rfl⟩ := Prod.mk.inj (Option.some.inj (found.symm.trans read))
      exact ⟨⟨key, []⟩, after, by simpa [PathForm.text] using whole, by simp [PathForm.text], rfl⟩
  | step before inside read ih =>
    obtain ⟨form, rest, covers⟩ := ih
    rcases covers.readStep_cases inside with ⟨error, failed⟩ | ⟨step, after, goesOn, covers⟩
    · simp [failed] at read
    · rw [goesOn] at read
      simp only [Option.some.injEq, Except.ok.injEq, Prod.mk.injEq] at read
      obtain ⟨rfl, rfl⟩ := read
      exact ⟨_, after, covers⟩

end Covers

/-! ### Reading in place -/

section Reading

variable {expr : String.Slice}

theorem readSteps_eq {cursor : Cursor} {rest : List Char} (h : LeftAt expr cursor.position rest) :
    readSteps expr cursor =
      some ((steps (byteLength (chars expr)) rest).map (cursor.path ++ ·)) := by
  fun_induction readSteps expr cursor generalizing rest with
  | case1 cursor inside missing =>
    rcases readStep_cases h (h.lt_utf8ByteSize_iff.1 inside) with
      ⟨error, failed, -⟩ | ⟨form, after, -, read, -⟩
    · simp [failed] at missing
    · simp [read] at missing
  | case2 cursor inside error failed =>
    rcases readStep_cases h (h.lt_utf8ByteSize_iff.1 inside) with
      ⟨error', failed', same⟩ | ⟨form, after, -, read, -⟩
    · obtain rfl : error = error' := by simpa [failed] using failed'
      rw [same]
      rfl
    · simp [read] at failed
  | case3 cursor inside segment next read ih =>
    rcases readStep_cases h (h.lt_utf8ByteSize_iff.1 inside) with
      ⟨error, failed, -⟩ | ⟨form, after, rfl, read', same⟩
    · simp [failed] at read
    · obtain ⟨rfl, rfl⟩ : form.segment = segment ∧
          cursor.position + byteLength form.text = next := by simpa [read'] using read
      rw [same, ih h.advance]
      cases steps (byteLength (chars expr)) after <;> simp [Except.map]
  | case4 cursor atEnd =>
    obtain rfl : rest = [] := by simpa using mt h.lt_utf8ByteSize_iff.2 atEnd
    simp [steps, Except.map]

/-- Reading goes on behind a step. -/
theorem readSteps_of_readStep {cursor : Cursor} {segment : Segment} {next : Nat}
    (inside : cursor.position < expr.utf8ByteSize)
    (read : readStep expr cursor.position = some (.ok (segment, next))) :
    readSteps expr cursor = readSteps expr ⟨next, cursor.path ++ [segment]⟩ := by
  rw [readSteps, if_pos inside]
  split
  · next missing => simp [read] at missing
  · next failed => simp [read] at failed
  · next read' =>
    obtain ⟨rfl, rfl⟩ : _ ∧ _ := by simpa [read] using read'
    rfl

/-- A path that is read is that of a cursor at the end. -/
theorem reached_of_readSteps {cursor : Cursor} {path : Path} (reached : Reached expr cursor)
    (read : readSteps expr cursor = some (.ok path)) : Reached expr ⟨expr.utf8ByteSize, path⟩ := by
  fun_induction readSteps expr cursor with
  | case1 | case2 => simp at read
  | case3 cursor inside segment next goesOn ih => exact ih (reached.step inside goesOn) read
  | case4 cursor atEnd =>
    obtain ⟨form, rest, covers⟩ := reached.covers
    have size := covers.leftAt.add_byteLength
    obtain rfl : rest = [] := by simpa using mt covers.leftAt.lt_utf8ByteSize_iff.2 atEnd
    obtain rfl : cursor.path = path := by simpa using read
    rw [Text.byteLength_nil, Nat.add_zero] at size
    exact size ▸ reached

end Reading

section Expression

variable {expression : String}

theorem chars_trimmed (expression : String) :
    chars (Text.trimmed expression).toSlice = Text.trim expression.toList := by
  rw [Text.chars_toSlice, Text.trimmed, String.toList_ofList]

/-- Behind its first key an expression is read step by step. -/
theorem read?_of_readKey {name : String} {position : Nat}
    (read : readKey (Text.trimmed expression).toSlice 0 = some (name, position))
    (nonempty : name.isEmpty = false) :
    Path.read? expression =
      readSteps (Text.trimmed expression).toSlice ⟨position, [.key name]⟩ := by
  have some_left : ¬ (Text.trimmed expression).toSlice.isEmpty = true := by
    intro empty
    rw [readKey_eq (Text.leftAt_zero _), (Text.isEmpty_iff _).1 empty] at read
    obtain ⟨rfl, -⟩ := Prod.mk.inj (Option.some.inj read)
    simp at nonempty
  rw [Path.read?]
  simp only [if_neg some_left, read, nonempty, Bool.false_eq_true, if_false, Option.bind_eq_bind,
    Option.bind_some]

/-- **Reading an expression in place gives its path**, or its error, and misses no slice. -/
theorem read?_eq_some_parse (expression : String) :
    Path.read? expression = some (Path.parse expression) := by
  have left := Text.leftAt_zero (Text.trimmed expression).toSlice
  rw [Path.parse, ← chars_trimmed, pathOfTrimmed]
  rcases readKey_cases left with ⟨missing, read⟩ | ⟨key, after, whole, found, read⟩
  · rw [Path.read?]
    simp only [Text.isEmpty_iff, read, missing, missingKey_eq left, Option.bind_eq_bind,
      Option.bind_some, Option.pure_def]
    split <;> rfl
  · have behindKey : LeftAt (Text.trimmed expression).toSlice (0 + byteLength key.chars) after :=
      LeftAt.advance (whole ▸ left)
    have nonempty : chars (Text.trimmed expression).toSlice ≠ [] := by
      simp [whole, key.nonempty]
    rw [read?_of_readKey read key.isEmpty_ofList, readSteps_eq behindKey]
    simp only [if_neg nonempty, found]
    rfl

/-- What an expression comes to is what reading from any cursor on comes to. -/
theorem Reached.readSteps_eq {cursor : Cursor}
    (h : Reached (Text.trimmed expression).toSlice cursor) :
    readSteps (Text.trimmed expression).toSlice cursor = Path.read? expression := by
  induction h with
  | first read nonempty => exact (read?_of_readKey read nonempty).symm
  | step before inside read ih => rw [← ih, readSteps_of_readStep inside read]

/-- An expression that is a path is read to its end. -/
theorem reached_of_parse {path : Path} (parsed : Path.parse expression = .ok path) :
    Reached (Text.trimmed expression).toSlice
      ⟨(Text.trimmed expression).toSlice.utf8ByteSize, path⟩ := by
  have read? := read?_eq_some_parse expression
  rcases readKey_cases (Text.leftAt_zero (Text.trimmed expression).toSlice) with
    ⟨missing, -⟩ | ⟨key, after, -, -, read⟩
  · -- Without a first key there is no path.
    rw [Path.parse, ← chars_trimmed, pathOfTrimmed, missing] at parsed
    dsimp only at parsed
    split at parsed <;> simp at parsed
  · rw [parsed, read?_of_readKey read key.isEmpty_ofList] at read?
    exact reached_of_readSteps (.first read key.isEmpty_ofList) read?

end Expression

/-! ### Safety -/

/-- What holds of a cursor over an expression. -/
structure Cursor.Sound (expr : String.Slice) (cursor : Cursor) : Prop where
  /-- The cursor is between two characters, or at the end. -/
  boundary : String.Pos.Raw.IsValidForSlice expr ⟨cursor.position⟩
  within : cursor.position ≤ expr.utf8ByteSize
  /-- What is before the cursor is a path as it is written, and is the path read so far. -/
  covered : ∃ (before : String.Slice) (form : PathForm),
    sliceTo? expr cursor.position = some before ∧ chars before = form.text ∧
      form.path = cursor.path ∧ Path.parse before.copy = .ok cursor.path
  /-- A step meets an error, or goes on to such a place again. -/
  goesOn : cursor.position < expr.utf8ByteSize →
    (∃ error, readStep expr cursor.position = some (.error error)) ∨
    ∃ segment next, readStep expr cursor.position = some (.ok (segment, next)) ∧
      cursor.position < next ∧ next ≤ expr.utf8ByteSize ∧
      String.Pos.Raw.IsValidForSlice expr ⟨next⟩

theorem Covers.sound {expr : String.Slice} {cursor : Cursor} {form : PathForm} {rest : List Char}
    (h : Covers expr cursor form rest) : cursor.Sound expr where
  boundary := h.leftAt.isValidForSlice
  within := Nat.le.intro h.leftAt.add_byteLength
  covered := by
    obtain ⟨before, found, held⟩ := Text.sliceTo?_of_append h.whole
    refine ⟨before, form, h.position ▸ found, held, h.path, ?_⟩
    rw [Path.parse, Text.copy_eq, String.toList_ofList, held, form.trim_text]
    exact pathOfTrimmed_eq_ok_iff.2 ⟨form, rfl, h.path⟩
  goesOn inside := by
    rcases h.readStep_cases inside with failed | ⟨step, after, read, covers⟩
    · exact .inl failed
    · exact .inr ⟨_, _, read, lt_of_readStep read, Nat.le.intro covers.leftAt.add_byteLength,
        covers.leftAt.isValidForSlice⟩

/-- Reading an expression in place, as `expr`, is safe, and gives what its characters give. -/
structure ReadsSafely (expression : String) (expr : String.Slice) : Prop where
  /-- Slices are missing exactly off the boundaries between characters. -/
  slices : ∀ (s : String.Slice) (offset : Nat),
    (sliceFrom? s offset = none ↔ ¬ String.Pos.Raw.IsValidForSlice s ⟨offset⟩) ∧
      (sliceTo? s offset = none ↔ ¬ String.Pos.Raw.IsValidForSlice s ⟨offset⟩)
  /-- From any boundary on each reader has all the slices that it takes. -/
  readers : ∀ offset, String.Pos.Raw.IsValidForSlice expr ⟨offset⟩ →
    (readKey expr offset).isSome = true ∧ (missingKey expr offset).isSome = true ∧
      (byteAt? expr offset = some '['.toUInt8 → (readBracket expr offset).isSome = true)
  /-- No slice and no byte is missing on the way through the expression. -/
  read : Path.read? expression = some (Path.parse expression)
  /-- A byte is that of a mark exactly where the mark stands. -/
  bytes : ∀ mark ∈ ['.', '[', ']'], ∀ offset,
    byteAt? expr offset = some mark.toUInt8 ↔
      ∃ rest, sliceFrom? expr offset = some rest ∧ rest.front? = some mark
  sound : ∀ cursor, Reached expr cursor → cursor.Sound expr
  /-- What is read from a cursor on is what is read as a whole. -/
  resumes : ∀ cursor, Reached expr cursor → readSteps expr cursor = Path.read? expression
  /-- The cursor at the end covers the whole of a path. -/
  finishes : ∀ path, Path.parse expression = .ok path → Reached expr ⟨expr.utf8ByteSize, path⟩

/-- **Reading in place is safe.** All slices that are taken are there, bytes are tested where the
characters are that they stand for, and every step goes on. -/
theorem readsSafely (expression : String) :
    ReadsSafely expression (Text.trimmed expression).toSlice where
  slices _ _ := ⟨Text.sliceFrom?_eq_none_iff, Text.sliceTo?_eq_none_iff⟩
  readers offset boundary := by
    obtain ⟨rest, left⟩ := Text.exists_leftAt boundary
    refine ⟨by rw [readKey_eq left]; rfl, by rw [missingKey_eq left]; rfl, fun opens => ?_⟩
    obtain ⟨inside, rfl⟩ :=
      List.head?_eq_some_iff.1 ((left.byteAt?_eq_some_iff (by decide)).1 opens)
    rw [readBracket_eq left]
    rfl
  read := read?_eq_some_parse expression
  bytes mark isMark offset := by
    have ascii : mark.toNat < 128 := by
      simp only [List.mem_cons, List.not_mem_nil, or_false] at isMark
      rcases isMark with rfl | rfl | rfl <;> decide
    exact Text.byteAt?_eq_some_iff_front? ascii
  sound cursor reached := by
    obtain ⟨form, rest, covers⟩ := reached.covers
    exact covers.sound
  resumes _ reached := reached.readSteps_eq
  finishes _ parsed := reached_of_parse parsed

/-- The eleven bytes of `é[0]['ü']` are read to their end, over two characters of two bytes. -/
theorem readsSafely_wideCharacters :
    Path.read? " é[0]['ü'] " = some (.ok [.key "é", .index 0, .key "ü"]) ∧
      Reached (Text.trimmed " é[0]['ü'] ").toSlice ⟨11, [.key "é", .index 0, .key "ü"]⟩ ∧
      Cursor.Sound (Text.trimmed " é[0]['ü'] ").toSlice
        ⟨11, [.key "é", .index 0, .key "ü"]⟩ := by
  have safe := readsSafely " é[0]['ü'] "
  have parsed : Path.parse " é[0]['ü'] " = .ok [.key "é", .index 0, .key "ü"] := by
    decide +kernel
  have size : (Text.trimmed " é[0]['ü'] ").toSlice.utf8ByteSize = 11 := by decide +kernel
  have reached := safe.finishes _ parsed
  rw [size] at reached
  exact ⟨parsed ▸ safe.read, reached, safe.sound _ reached⟩

end PushNotice.Placeholder
