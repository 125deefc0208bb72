import PushNotice.Text.Lines

/-!
# PushNotice.Proofs.Text.Lines

**Lines that are joined are the lines again.** The trimmed lines of a text are its parts between the
line feeds, each without the blanks at its ends, if anything is left of it (`trimmedLines_eq_pare`).
So texts without a line feed may as well be joined: blanks before a line feed, such as a carriage
return, are trimmed along with those of the texts (`trimmedLines_intercalate`).
-/

namespace PushNotice.Text

/-! ### Texts without the blanks at their ends -/

/-- What is left of a text without the blanks at its ends. It is not empty, starts and ends with
characters that are not blank, and holds all that stands between these. -/
structure IsCore (core text : String) : Prop where
  ends : ∃ before after, text = before ++ core ++ after ∧
    isBlankText before = true ∧ isBlankText after = true
  nonempty : core ≠ ""
  first : ∀ c ∈ core.toList.head?, isBlank c = false
  last : ∀ c ∈ core.toList.getLast?, isBlank c = false

/-- The cores of texts, in order. A text that holds nothing but blanks has none. -/
inductive Pared : List String → List String → Prop where
  | nil : Pared [] []
  | blank {text : String} {texts cores : List String} (blank : isBlankText text = true)
    (rest : Pared texts cores) : Pared (text :: texts) cores
  | solid {text core : String} {texts cores : List String} (isCore : IsCore core text)
    (rest : Pared texts cores) : Pared (text :: texts) (core :: cores)

/-- The cores of texts. -/
def pare (texts : List String) : List String :=
  (texts.map trimmed).filter (!·.isEmpty)

theorem trimmed_eq_empty_iff {text : String} : trimmed text = "" ↔ isBlankText text = true := by
  rw [isBlankText, ← trim_eq_nil_iff, trimmed, String.ofList_eq_empty_iff]

theorem trimmed_append_of_blank {gap : String} (blank : isBlankText gap = true) (text : String) :
    trimmed (text ++ gap) = trimmed text := by
  have lost : trim ([] ++ text.toList ++ gap.toList) = trim text.toList :=
    trim_append rfl blank text.toList
  rw [trimmed, trimmed, String.toList_append]
  exact congrArg String.ofList lost

theorem trim_subset (cs : List Char) : trim cs ⊆ cs := by
  obtain ⟨before, after, split, -, -⟩ := trim_split cs
  exact fun c mem => split ▸ List.mem_append_left after (List.mem_append_right before mem)

theorem isCore_iff {core text : String} : IsCore core text ↔ trimmed text = core ∧ core ≠ "" := by
  constructor
  · intro h
    obtain ⟨before, after, rfl, blankBefore, blankAfter⟩ := h.ends
    refine ⟨?_, h.nonempty⟩
    rw [trimmed, String.toList_append, String.toList_append, trim_append blankBefore blankAfter,
      trim_eq_self_of_ends h.first h.last, String.ofList_toList]
  · rintro ⟨rfl, nonempty⟩
    obtain ⟨before, after, split, blankBefore, blankAfter⟩ := trim_split text.toList
    refine ⟨⟨String.ofList before, String.ofList after, ?_, ?_, ?_⟩, nonempty, ?_, ?_⟩
    · simpa [← String.toList_inj, trimmed] using split
    · simpa [isBlankText] using blankBefore
    · simpa [isBlankText] using blankAfter
    · intro c mem
      exact not_blank_of_head?_trim (by simpa [trimmed] using mem)
    · intro c mem
      exact not_blank_of_getLast?_trim (by simpa [trimmed] using mem)

theorem pare_cons (text : String) (texts : List String) :
    pare (text :: texts) = pare [text] ++ pare texts := by
  simp [pare, ← List.filter_append]

theorem pare_singleton (text : String) :
    pare [text] = if isBlankText text then [] else [trimmed text] := by
  by_cases h : isBlankText text = true
  · simp [pare, h, trimmed_eq_empty_iff.2 h]
  · simp [pare, h, trimmed_eq_empty_iff]

theorem pared_iff {texts cores : List String} : Pared texts cores ↔ pare texts = cores := by
  constructor
  · intro h
    induction h with
    | nil => rfl
    | blank blank _ ih => rw [pare_cons, pare_singleton, if_pos blank, ih]; rfl
    | solid isCore _ ih =>
      obtain ⟨rfl, nonempty⟩ := isCore_iff.1 isCore
      have solid : ¬ isBlankText _ = true := fun blank => nonempty (trimmed_eq_empty_iff.2 blank)
      rw [pare_cons, pare_singleton, if_neg solid, ih]
      rfl
  · rintro rfl
    induction texts with
    | nil => exact .nil
    | cons text texts ih =>
      rw [pare_cons, pare_singleton]
      split
      · next blank => exact .blank blank ih
      · next solid =>
        have nonempty : trimmed text ≠ "" := fun empty => solid (trimmed_eq_empty_iff.1 empty)
        exact .solid (isCore_iff.2 ⟨rfl, nonempty⟩) ih

/-- Texts without blanks at their ends stay as they are. -/
theorem pare_eq_self {texts : List String} (h : ∀ text ∈ texts, text ≠ "" ∧ trimmed text = text) :
    pare texts = texts := by
  have unchanged : texts.map trimmed = texts.map id :=
    List.map_congr_left fun text mem => (h text mem).2
  rw [pare, unchanged, List.map_id, List.filter_eq_self]
  exact fun text mem => by simpa using (h text mem).1

theorem pare_eq_nil_iff {texts : List String} :
    pare texts = [] ↔ ∀ text ∈ texts, isBlankText text = true := by
  simp [pare, trimmed_eq_empty_iff]

/-! ### Lines of a text -/

theorem trimmedLines_eq_pare (s : String) :
    trimmedLines s = pare ((splitAtMark '\n' s.toList).map String.ofList) := by
  unfold trimmedLines
  induction splitAtMark '\n' s.toList with
  | nil => rfl
  | cons part parts ih =>
    rw [List.map_cons, List.map_cons, pare_cons, pare_singleton, ← ih, List.filterMap_cons]
    simp only [trim_eq_nil_iff, isBlankText, String.toList_ofList, trimmed]
    split <;> simp_all

/-- A line feed parts the lines before it from those after it. -/
theorem trimmedLines_append (a b : String) :
    trimmedLines (a ++ "\n" ++ b) = trimmedLines a ++ trimmedLines b := by
  have whole : (a ++ "\n" ++ b).toList = a.toList ++ '\n' :: b.toList := by simp
  rw [trimmedLines, whole, splitAtMark_append_cons, List.map_append, List.filterMap_append]
  rfl

/-- A text without a line feed is one line. -/
theorem trimmedLines_of_unbroken {text : String} (h : '\n' ∉ text.toList) :
    trimmedLines text = pare [text] := by
  rw [trimmedLines_eq_pare, splitAtMark_of_not_mem h, List.map_singleton, String.ofList_toList]

theorem trimmedLines_of_blank {text : String} (h : isBlankText text = true) :
    trimmedLines text = [] := by
  rw [trimmedLines_eq_pare, pare_eq_nil_iff, List.forall_mem_map]
  intro part mem
  rw [isBlankText, String.toList_ofList, allBlank_iff]
  exact fun c inPart => allBlank_iff.1 h c (subset_of_mem_splitAtMark mem inPart)

/-- Lines hold no line feeds. -/
theorem unbroken_of_mem_trimmedLines {text line : String} (h : line ∈ trimmedLines text) :
    '\n' ∉ line.toList := by
  rw [trimmedLines_eq_pare, pare, List.map_map] at h
  obtain ⟨part, isPart, rfl⟩ := List.mem_map.1 (List.mem_filter.1 h).1
  rw [Function.comp_apply, trimmed, String.toList_ofList, String.toList_ofList]
  exact fun mem => not_mem_of_mem_splitAtMark isPart (trim_subset part mem)

/-- **Texts without a line feed are pared alike in a list and joined.** Blanks may stand before each
of the line feeds between them. -/
theorem trimmedLines_intercalate {gap : String} (blank : isBlankText gap = true)
    (unbroken : '\n' ∉ gap.toList) {texts : List String} (h : ∀ text ∈ texts, '\n' ∉ text.toList) :
    trimmedLines ((gap ++ "\n").intercalate texts) = pare texts := by
  induction texts with
  | nil => rw [String.intercalate_nil]; rfl
  | cons text texts ih =>
    obtain ⟨here, later⟩ := List.forall_mem_cons.1 h
    cases texts with
    | nil => rw [String.intercalate_singleton, trimmedLines_of_unbroken here]
    | cons next texts =>
      have first : '\n' ∉ (text ++ gap).toList := by simp [here, unbroken]
      have padded : pare [text ++ gap] = pare [text] := by
        simp [pare, trimmed_append_of_blank blank]
      rw [String.intercalate_cons_cons, ← String.append_assoc, trimmedLines_append,
        trimmedLines_of_unbroken first, padded, ih later, ← pare_cons]

/-- **Lines that are joined are the lines again.** -/
theorem trimmedLines_intercalate_trimmedLines {gap : String} (blank : isBlankText gap = true)
    (unbroken : '\n' ∉ gap.toList) (text : String) :
    trimmedLines ((gap ++ "\n").intercalate (trimmedLines text)) = trimmedLines text := by
  rw [trimmedLines_intercalate blank unbroken fun _ => unbroken_of_mem_trimmedLines]
  exact pare_eq_self fun _ => of_mem_trimmedLines

end PushNotice.Text
