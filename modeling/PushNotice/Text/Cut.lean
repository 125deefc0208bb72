/-!
# PushNotice.Text.Cut

**Cutting a text at the first place where a mark occurs.** `cut? mark s` is the text before the
first occurrence of `mark` in `s` and the text after it. `cut?_eq_some` says that the two parts
and the mark make up the text again, and `cut?_first` that the mark occurs no earlier; by
`cut?_eq_some_iff` there is no other such cut.
-/

namespace PushNotice.Text

/-- The rest of `s` after `mark`, if `s` begins with `mark`. -/
def after? : (mark s : List Char) → Option (List Char)
  | [], s => some s
  | _ :: _, [] => none
  | m :: mark, c :: s => if m = c then after? mark s else none

/-- The parts of `s` before and after the first occurrence of `mark`. -/
def cut? (mark : List Char) : (s : List Char) → Option (List Char × List Char)
  | [] => if mark = [] then some ([], []) else none
  | c :: s =>
    match after? mark (c :: s) with
    | some rest => some ([], rest)
    | none => (cut? mark s).map fun (before, rest) => (c :: before, rest)

/-! ### What a cut holds -/

theorem after?_eq_some_iff {mark s rest : List Char} :
    after? mark s = some rest ↔ s = mark ++ rest := by
  induction mark generalizing s with
  | nil => simp [after?]
  | cons m mark ih =>
    cases s with
    | nil => simp [after?]
    | cons c s =>
      by_cases h : m = c
      · simp [after?, h, ih]
      · simp [after?, h, Ne.symm h]

@[simp] theorem after?_append (mark rest : List Char) : after? mark (mark ++ rest) = some rest :=
  after?_eq_some_iff.2 rfl

/-- The two parts of a cut and the mark between them make up the text. -/
theorem cut?_eq_some {mark s before rest : List Char} (h : cut? mark s = some (before, rest)) :
    s = before ++ mark ++ rest := by
  induction s generalizing before with
  | nil =>
    by_cases hm : mark = [] <;> simp [cut?, hm] at h
    simp [h, hm]
  | cons c s ih =>
    rw [cut?] at h
    split at h
    · next found =>
      obtain ⟨rfl, rfl⟩ := Prod.mk.injEq _ _ _ _ ▸ Option.some.inj h
      simpa using after?_eq_some_iff.1 found
    · next =>
      obtain ⟨⟨before', rest'⟩, hcut, heq⟩ := Option.map_eq_some_iff.1 h
      obtain ⟨rfl, rfl⟩ := Prod.mk.injEq _ _ _ _ ▸ heq
      simp [ih hcut]

/-- A cut leaves a shorter rest, when the mark is not empty. -/
theorem cut?_length {mark s before rest : List Char} (h : cut? mark s = some (before, rest)) :
    before.length + mark.length + rest.length = s.length := by
  simp [cut?_eq_some h, Nat.add_assoc]

/-! ### The first mark -/

/-- In `part` followed by `mark`, the mark stands nowhere but at the end. -/
def FirstAtEnd (mark part : List Char) : Prop :=
  ∀ before rest, part ++ mark = before ++ mark ++ rest → rest = []

theorem FirstAtEnd.of_append {mark part : List Char} (front : List Char)
    (h : FirstAtEnd mark (front ++ part)) : FirstAtEnd mark part := by
  intro before rest split
  exact h (front ++ before) rest (by simp [split])

theorem FirstAtEnd.tail {mark part : List Char} {c : Char} (h : FirstAtEnd mark (c :: part)) :
    FirstAtEnd mark part :=
  FirstAtEnd.of_append [c] h

theorem firstAtEnd_nil (mark : List Char) : FirstAtEnd mark [] := by
  intro before rest split
  have lengths := congrArg List.length split
  simp only [List.nil_append, List.length_append] at lengths
  exact List.length_eq_zero_iff.1 (by omega)

/-- A mark at the very start of `part ++ mark` leaves room for nothing in front of it. -/
theorem FirstAtEnd.eq_nil_of_prefix {mark part : List Char} (h : FirstAtEnd mark part)
    (start : mark <+: part ++ mark) : part = [] := by
  obtain ⟨rest, split⟩ := start
  have none_left : rest = [] := h [] rest (by simpa using split.symm)
  rw [none_left, List.append_nil] at split
  exact List.append_left_eq_self.1 split.symm

/-- The part before a cut meets the mark only where the cut is. -/
theorem cut?_first {mark s before rest : List Char} (h : cut? mark s = some (before, rest)) :
    FirstAtEnd mark before := by
  induction s generalizing before with
  | nil =>
    by_cases hm : mark = [] <;> simp [cut?, hm] at h
    exact h.1 ▸ firstAtEnd_nil mark
  | cons c s ih =>
    have whole := cut?_eq_some h
    rw [cut?] at h
    split at h
    · obtain ⟨rfl, -⟩ := Prod.mk.injEq _ _ _ _ ▸ Option.some.inj h
      exact firstAtEnd_nil mark
    · next absent =>
      obtain ⟨⟨before', rest'⟩, hcut, heq⟩ := Option.map_eq_some_iff.1 h
      obtain ⟨rfl, rfl⟩ := Prod.mk.injEq _ _ _ _ ▸ heq
      intro start left split
      cases start with
      | nil =>
        -- The mark would stand at the start of the text, where it was looked for in vain.
        have found : c :: s = mark ++ (left ++ rest') := by
          rw [whole, split]
          simp
        rw [after?_eq_some_iff.2 found] at absent
        simp at absent
      | cons d start =>
        simp only [List.cons_append, List.cons.injEq] at split
        exact ih hcut start left split.2

/-- A text in which a mark that stands nowhere earlier follows `before` is cut there. -/
theorem cut?_append {mark before : List Char} (h : FirstAtEnd mark before) (rest : List Char) :
    cut? mark (before ++ mark ++ rest) = some (before, rest) := by
  induction before with
  | nil =>
    cases hs : mark ++ rest with
    | nil =>
      obtain ⟨rfl, rfl⟩ := List.append_eq_nil_iff.1 hs
      rfl
    | cons c s =>
      rw [List.nil_append, hs, cut?, ← hs, after?_append]
  | cons c before ih =>
    have absent : after? mark (c :: (before ++ mark ++ rest)) = none := by
      cases found : after? mark (c :: (before ++ mark ++ rest)) with
      | none => rfl
      | some left =>
        have whole : c :: before ++ mark <+: c :: (before ++ mark ++ rest) := ⟨rest, by simp⟩
        have start : mark <+: c :: (before ++ mark ++ rest) :=
          ⟨left, (after?_eq_some_iff.1 found).symm⟩
        have short : mark.length ≤ (c :: before ++ mark).length := by
          rw [List.length_append]
          omega
        have first := List.prefix_of_prefix_length_le start whole short
        exact absurd (h.eq_nil_of_prefix first) (by simp)
    simp only [List.cons_append, cut?, absent, ih h.tail, Option.map_some]

/-- A text is cut at the first mark, and only there. -/
theorem cut?_eq_some_iff {mark s before rest : List Char} :
    cut? mark s = some (before, rest) ↔ s = before ++ mark ++ rest ∧ FirstAtEnd mark before := by
  constructor
  · intro h
    exact ⟨cut?_eq_some h, cut?_first h⟩
  · rintro ⟨rfl, first⟩
    exact cut?_append first rest

/-- Two texts with a mark after the parts before it are the same in those parts only. -/
theorem FirstAtEnd.append_inj {mark part part' rest rest' : List Char} (h : FirstAtEnd mark part)
    (h' : FirstAtEnd mark part') (same : part ++ mark ++ rest = part' ++ mark ++ rest') :
    part = part' ∧ rest = rest' := by
  have cut := cut?_append h rest
  rw [same, cut?_append h' rest'] at cut
  obtain ⟨parts, rests⟩ := Prod.mk.injEq _ _ _ _ ▸ Option.some.inj cut
  exact ⟨parts.symm, rests.symm⟩

/-- A text is not cut exactly if the mark does not occur in it. -/
theorem cut?_eq_none_iff {mark s : List Char} : cut? mark s = none ↔ ¬ mark <:+: s := by
  induction s with
  | nil => by_cases hm : mark = [] <;> simp [cut?, hm]
  | cons c s ih =>
    rw [cut?, List.infix_cons_iff]
    cases found : after? mark (c :: s) with
    | some rest => simp [after?_eq_some_iff.1 found]
    | none =>
      have absent : ¬ mark <+: c :: s := by
        rintro ⟨rest, split⟩
        rw [after?_eq_some_iff.2 split.symm] at found
        simp at found
      simp [ih, absent]

/-- What follows some mark of a text is the end of what follows the first one. -/
theorem cut?_suffix {mark s before rest start left : List Char}
    (h : cut? mark s = some (before, rest)) (split : s = start ++ mark ++ left) :
    left <:+ rest := by
  rw [cut?_eq_some h] at split
  rcases List.append_eq_append_iff.1 split with ⟨between, -, split⟩ | ⟨between, split, tail⟩
  · exact ⟨between, split.symm⟩
  · obtain rfl := cut?_first h start between split
    exact ⟨[], tail⟩

theorem firstAtEnd_singleton {c : Char} {part : List Char} : FirstAtEnd [c] part ↔ c ∉ part := by
  constructor
  · intro h mem
    obtain ⟨before, rest, split⟩ := List.append_of_mem mem
    have := h before (rest ++ [c]) (by simp [split])
    simp at this
  · intro absent before rest split
    rcases List.eq_nil_or_concat rest with none_left | ⟨rest', d, rfl⟩
    · exact none_left
    · rw [List.concat_eq_append, ← List.append_assoc] at split
      have whole := (List.append_inj' split rfl).1
      exact absurd (by simp [whole]) absent

/-- A mark does not reach over a character that it lacks. -/
theorem infix_append_cons_iff {mark xs ys : List Char} {c : Char} (hc : c ∉ mark) :
    mark <:+: xs ++ c :: ys ↔ mark <:+: xs ∨ mark <:+: ys := by
  constructor
  · rintro ⟨before, after, split⟩
    rcases List.append_eq_append_iff.1 split with ⟨rest, left, -⟩ | ⟨rest, right, whole⟩
    · exact .inl ⟨before, rest, left.symm⟩
    · cases rest with
      | nil =>
        obtain rfl : before ++ mark = xs := by simpa using right
        exact .inl ⟨before, [], by simp⟩
      | cons d rest =>
        obtain ⟨rfl, rfl⟩ := List.cons.inj whole
        -- The mark starts behind the character, which it lacks.
        rcases List.append_eq_append_iff.1 right with ⟨tail, -, within⟩ | ⟨tail, -, behind⟩
        · exact absurd (by simp [within]) hc
        · cases tail with
          | nil =>
            obtain rfl : c :: rest = mark := by simpa using behind
            exact absurd List.mem_cons_self hc
          | cons e tail =>
            obtain ⟨rfl, rfl⟩ := List.cons.inj behind
            exact .inr ⟨tail, after, rfl⟩
  · rintro (⟨before, after, rfl⟩ | ⟨before, after, rfl⟩)
    · exact ⟨before, after ++ c :: ys, by simp⟩
    · exact ⟨xs ++ c :: before, after, by simp⟩

/-- The mark of one character twice stands first at the end of a text exactly if the text neither
holds it nor ends with its character. -/
theorem firstAtEnd_pair_iff {c : Char} {part : List Char} :
    FirstAtEnd [c, c] part ↔ ¬ [c, c] <:+: part ∧ part.getLast? ≠ some c := by
  constructor
  · intro h
    constructor
    · rintro ⟨before, after, rfl⟩
      have := h before (after ++ [c, c]) (by simp)
      simp at this
    · intro last
      obtain ⟨front, rfl⟩ := List.getLast?_eq_some_iff.1 last
      have := h front [c] (by simp)
      simp at this
  · rintro ⟨absent, last⟩ before rest split
    rcases List.eq_nil_or_concat rest with none_left | ⟨rest, d, rfl⟩
    · exact none_left
    · -- Without its last character the text is `part` and one of the mark's characters.
      have short : part ++ [c] = before ++ [c, c] ++ rest := by
        have whole : part ++ [c] ++ [c] = before ++ [c, c] ++ rest ++ [d] := by simpa using split
        exact (List.append_inj' whole rfl).1
      rcases List.eq_nil_or_concat rest with rfl | ⟨rest, e, rfl⟩
      · have part_eq : part = before ++ [c] := by
          have whole : part ++ [c] = before ++ [c] ++ [c] := by simpa using short
          exact (List.append_inj' whole rfl).1
        exact absurd (by simp [part_eq]) last
      · have part_eq : part = before ++ [c, c] ++ rest := by
          have whole : part ++ [c] = before ++ [c, c] ++ rest ++ [e] := by simpa using short
          exact (List.append_inj' whole rfl).1
        exact absurd ⟨before, rest, part_eq.symm⟩ absent

/-- Behind a part in front of which the mark of one character twice stands first, the mark is found
only in what follows: it does not reach over the seam. -/
theorem FirstAtEnd.split_append {c : Char} {part tail before rest : List Char}
    (h : FirstAtEnd [c, c] part) (split : part ++ tail = before ++ [c, c] ++ rest) :
    ∃ between, tail = between ++ [c, c] ++ rest := by
  rw [List.append_assoc] at split
  rcases List.append_eq_append_iff.1 split with ⟨between, -, tail_eq⟩ | ⟨within, part_eq, mark_eq⟩
  · exact ⟨between, by rw [tail_eq, List.append_assoc]⟩
  · -- What `part` has of the mark would be a mark with another one behind it.
    match within with
    | [] => exact ⟨[], by simpa using mark_eq.symm⟩
    | [d] =>
      obtain ⟨rfl, -⟩ := List.cons.inj mark_eq
      have := h before [c] (by simp [part_eq])
      simp at this
    | d :: e :: within =>
      obtain ⟨rfl, second⟩ := List.cons.inj mark_eq
      obtain ⟨rfl, -⟩ := List.cons.inj second
      have := h before (within ++ [c, c]) (by simp [part_eq])
      simp at this

/-- Two parts that the mark of one character twice ends first are such a part together. -/
theorem FirstAtEnd.append {c : Char} {part part' : List Char} (h : FirstAtEnd [c, c] part)
    (h' : FirstAtEnd [c, c] part') : FirstAtEnd [c, c] (part ++ part') := by
  intro before rest split
  rw [List.append_assoc] at split
  obtain ⟨between, tail_eq⟩ := h.split_append split
  exact h' between rest tail_eq

/-! ### Strings -/

/-- The parts of a string before and after the first occurrence of `mark`. -/
def cutString? (mark s : String) : Option (String × String) :=
  (cut? mark.toList s.toList).map fun (before, rest) => (String.ofList before, String.ofList rest)

theorem cutString?_eq_some_iff {mark s before rest : String} :
    cutString? mark s = some (before, rest) ↔
      s = before ++ mark ++ rest ∧ FirstAtEnd mark.toList before.toList := by
  have parts : cutString? mark s = some (before, rest) ↔
      cut? mark.toList s.toList = some (before.toList, rest.toList) := by
    unfold cutString?
    cases cut? mark.toList s.toList with
    | none => simp
    | some cut => simp [Prod.ext_iff, ← String.toList_inj]
  have whole : s.toList = before.toList ++ mark.toList ++ rest.toList ↔ s = before ++ mark ++ rest := by
    rw [← String.toList_inj, String.toList_append, String.toList_append]
  rw [parts, cut?_eq_some_iff, whole]

theorem cutString?_eq_none_iff {mark s : String} :
    cutString? mark s = none ↔ ¬ mark.toList <:+: s.toList := by
  rw [cutString?, Option.map_eq_none_iff, cut?_eq_none_iff]

end PushNotice.Text
