/-!
# PushNotice.Text.Split

**Parts of a text between marks.** `splitAtMark mark s` has one part more than `s` has marks, and
no part holds a mark; with marks between them the parts make up the text again.
-/

namespace PushNotice.Text

/-- The parts of a text between the places where a mark stands. -/
def splitAtMark (mark : Char) : List Char → List (List Char)
  | [] => [[]]
  | c :: cs =>
    if c = mark then [] :: splitAtMark mark cs
    else
      match splitAtMark mark cs with
      | [] => [[c]]
      | part :: parts => (c :: part) :: parts

theorem splitAtMark_ne_nil (mark : Char) (cs : List Char) : splitAtMark mark cs ≠ [] := by
  cases cs with
  | nil => simp [splitAtMark]
  | cons c cs =>
    rw [splitAtMark]
    split
    · simp
    · split <;> simp

/-- No part of a text holds the mark. -/
theorem not_mem_of_mem_splitAtMark {mark : Char} {cs part : List Char}
    (h : part ∈ splitAtMark mark cs) : mark ∉ part := by
  induction cs generalizing part with
  | nil => simp_all [splitAtMark]
  | cons c cs ih =>
    rw [splitAtMark] at h
    split at h
    · rcases List.mem_cons.1 h with rfl | h
      · simp
      · exact ih h
    · next hc =>
      split at h
      · simp only [List.mem_singleton] at h
        simp [h, Ne.symm hc]
      · next first rest heq =>
        rcases List.mem_cons.1 h with rfl | h
        · have := ih (heq ▸ List.mem_cons_self : first ∈ splitAtMark mark cs)
          simp [this, Ne.symm hc]
        · exact ih (heq ▸ List.mem_cons_of_mem _ h)

/-- What a part holds, the text holds. -/
theorem subset_of_mem_splitAtMark {mark : Char} {cs part : List Char}
    (h : part ∈ splitAtMark mark cs) : part ⊆ cs := by
  induction cs generalizing part with
  | nil => simp_all [splitAtMark]
  | cons c cs ih =>
    rw [splitAtMark] at h
    split at h
    · rcases List.mem_cons.1 h with rfl | h
      · exact List.nil_subset _
      · exact List.subset_cons_of_subset _ (ih h)
    · split at h
      · simp_all
      · next first rest heq =>
        rcases List.mem_cons.1 h with rfl | h
        · exact List.cons_subset_cons _ (ih (heq ▸ List.mem_cons_self))
        · exact List.subset_cons_of_subset _ (ih (heq ▸ List.mem_cons_of_mem _ h))

theorem splitAtMark_of_not_mem {mark : Char} {cs : List Char} (h : mark ∉ cs) :
    splitAtMark mark cs = [cs] := by
  induction cs with
  | nil => rfl
  | cons c cs ih =>
    rw [List.mem_cons, not_or] at h
    rw [splitAtMark, if_neg (Ne.symm h.1), ih h.2]

/-- A mark parts what is before it from what is after it. -/
theorem splitAtMark_append_cons (mark : Char) (before after : List Char) :
    splitAtMark mark (before ++ mark :: after) =
      splitAtMark mark before ++ splitAtMark mark after := by
  induction before with
  | nil => simp [splitAtMark]
  | cons c before ih =>
    rw [List.cons_append, splitAtMark, splitAtMark, ih]
    split
    · rfl
    · cases parts : splitAtMark mark before with
      | nil => exact absurd parts (splitAtMark_ne_nil mark before)
      | cons part parts => rfl

/-- The parts with the mark between them make up the text. -/
theorem intercalate_splitAtMark (mark : Char) (cs : List Char) :
    [mark].intercalate (splitAtMark mark cs) = cs := by
  induction cs with
  | nil => rfl
  | cons c cs ih =>
    have some_part := splitAtMark_ne_nil mark cs
    rw [splitAtMark]
    split
    · next same => rw [List.intercalate_cons_of_ne_nil some_part, ih, same]; rfl
    · cases parts : splitAtMark mark cs with
      | nil => exact absurd parts some_part
      | cons part parts =>
        rw [parts] at ih
        rw [List.intercalate_cons_cons_left, ih]

end PushNotice.Text
