import PushNotice.Text.Cut

/-!
# PushNotice.Proofs.Text.Splitting

**Cutting and splitting.** Splitting a text at a mark takes the mark wherever it is met from left to
right, and goes on behind it. A text without the mark is one part (`partsBetween_of_uncut`), and of
any other the first part is what a cut leaves before the mark (`partsBetween_of_cut`). With the mark
between them the parts make up the text (`intercalate_partsBetween`), so that those behind the first
make up what the cut leaves behind the mark.
-/

namespace PushNotice.Text

open String (Slice)
open String.Slice.Pattern
open String.Slice.Pattern.Model
open String.Slice.Pattern.Model.ForwardStringSearcher (matchesAt_iff_splits
  isLongestMatchAt_iff_splits strictPatternModel lawfulToForwardSearcherModel)

/-- The parts of a text between the places where a mark is met from left to right. -/
def partsBetween (mark text : String) : List String :=
  (text.split mark).toList.map Slice.copy

/-! ### Places in a text -/

section

variable {mark : String} {s : Slice} {start pos : s.Pos}

theorem copy_subslice (le : start ≤ pos) {before part rest : String}
    (hs : start.Splits before (part ++ rest)) (hp : pos.Splits (before ++ part) rest) :
    (s.subslice start pos le).toSlice.copy = part := by
  obtain ⟨_, copied⟩ := Slice.copy_slice_eq_iff_splits.2 ⟨before, rest, hs, hp⟩
  rw [Slice.toSlice_subslice, copied]

/-- No place before the first mark matches it. -/
theorem not_matchesAt_of_firstAtEnd {part rest : String}
    (first : FirstAtEnd mark.toList part.toList) (hp : pos.Splits part (mark ++ rest))
    (before : start < pos) : ¬ MatchesAt mark start := by
  intro found
  obtain ⟨front, left, here⟩ := matchesAt_iff_splits.1 found
  obtain ⟨between, some_between, rfl, split⟩ := (here.lt_iff_exists_eq_append hp).1 before
  have firstBetween : FirstAtEnd mark.toList between.toList := by
    rw [String.toList_append] at first
    exact first.of_append _
  have whole : mark.toList ++ left.toList = between.toList ++ mark.toList ++ rest.toList := by
    simpa using congrArg String.toList split
  have begins : mark.toList <+: between.toList ++ mark.toList :=
    List.prefix_of_prefix_length_le (List.prefix_append _ _) ⟨_, whole.symm⟩ (by simp)
  exact some_between (String.toList_eq_nil_iff.1 (firstBetween.eq_nil_of_prefix begins))

variable [StrictPatternModel mark]

theorem modelSplit_ne_nil (le : start ≤ pos) : Model.split mark start pos le ≠ [] := by
  induction pos using WellFounded.induction Slice.Pos.wellFounded_gt with
  | h pos ih =>
    rw [Model.split]
    split
    · simp
    · split
      · simp
      · exact ih _ Slice.Pos.lt_next _

/-- What is found from a place on makes up the rest of the text, together with the part that the
place stands in. -/
theorem intercalate_modelSplit (le : start ≤ pos) {before part rest : String}
    (hs : start.Splits before (part ++ rest)) (hp : pos.Splits (before ++ part) rest) :
    mark.intercalate ((Model.split mark start pos le).map fun sub => sub.toSlice.copy) =
      part ++ rest := by
  induction pos using WellFounded.induction Slice.Pos.wellFounded_gt
    generalizing start before part rest with
  | h pos ih =>
    by_cases atEnd : pos = s.endPos
    · obtain rfl : rest = "" := hp.eq_endPos_iff.1 atEnd
      subst atEnd
      rw [split_endPos, List.map_singleton, copy_subslice le hs hp, String.intercalate_singleton,
        String.append_empty]
    by_cases found : MatchesAt mark pos
    · obtain ⟨_, left, here⟩ := matchesAt_iff_splits.1 found
      obtain ⟨rfl, rfl⟩ := hp.eq here
      have behind := here.splits_rotateRight
      have longest : IsLongestMatchAt mark pos here.rotateRight :=
        isLongestMatchAt_iff_splits.2 ⟨_, _, here, behind⟩
      -- Behind the mark an empty part begins.
      have begun : here.rotateRight.Splits (before ++ part ++ mark) ("" ++ left) := by
        rwa [String.empty_append]
      have others := ih _ longest.lt (Std.le_refl _) begun (by rwa [String.append_empty])
      rw [split_eq_of_isLongestMatchAt longest, List.map_cons, copy_subslice le hs hp,
        String.intercalate_cons_of_ne_nil (by simpa using modelSplit_ne_nil _), others,
        String.empty_append, String.append_assoc]
    · obtain ⟨left, rfl⟩ := hp.exists_eq_singleton_append atEnd
      have next := hp.next
      rw [String.append_assoc] at next
      rw [← String.append_assoc] at hs ⊢
      rw [split_eq_next_of_not_matchesAt atEnd found, ih _ Slice.Pos.lt_next _ hs next]

end

/-! ### Texts -/

section

variable {mark : String} (nonempty : mark ≠ "") {text : String}
include nonempty

theorem partsBetween_eq_modelSplit [StrictPatternModel mark] :
    partsBetween mark text =
      (Model.split mark text.toSlice.startPos text.toSlice.startPos (Std.le_refl _)).map
        fun sub => sub.toSlice.copy := by
  have := lawfulToForwardSearcherModel nonempty
  rw [partsBetween, String.split_eq_split_toSlice, Slice.toList_split_eq_splitToSubslice,
    toList_splitToSubslice_eq_modelSplit, List.map_map]
  rfl

/-- **With the mark between them the parts make up the text.** -/
theorem intercalate_partsBetween (text : String) :
    mark.intercalate (partsBetween mark text) = text := by
  have := strictPatternModel nonempty
  have start : text.toSlice.startPos.Splits "" ("" ++ text) := by simp
  rw [partsBetween_eq_modelSplit nonempty, intercalate_modelSplit _ start (by simp),
    String.empty_append]

/-- A text without the mark is its only part. -/
theorem partsBetween_of_uncut (uncut : cut? mark.toList text.toList = none) :
    partsBetween mark text = [text] := by
  have := strictPatternModel nonempty
  have nowhere : ∀ pos : text.toSlice.Pos, ¬ MatchesAt mark pos := by
    intro pos found
    obtain ⟨before, rest, here⟩ := matchesAt_iff_splits.1 found
    refine cut?_eq_none_iff.1 uncut ⟨before.toList, rest.toList, ?_⟩
    simpa using (congrArg String.toList here.eq_append).symm
  have start : text.toSlice.startPos.Splits "" (text ++ "") := by simp
  rw [partsBetween_eq_modelSplit nonempty,
    split_eq_of_not_matchesAt text.toSlice.endPos (by simp) fun pos _ _ => nowhere pos,
    split_endPos, List.map_singleton, copy_subslice _ start (by simp)]

/-- The first part ends where the text is cut. -/
theorem partsBetween_of_cut {before rest : List Char}
    (cut : cut? mark.toList text.toList = some (before, rest)) :
    ∃ others, others ≠ [] ∧ partsBetween mark text = String.ofList before :: others := by
  have := strictPatternModel nonempty
  obtain ⟨whole, first⟩ := cut?_eq_some_iff.1 cut
  have start : text.toSlice.startPos.Splits ""
      (String.ofList before ++ (mark ++ String.ofList rest)) := by
    rw [Slice.splits_startPos_iff, String.copy_toSlice]
    exact ⟨rfl, String.toList_inj.1 (by simp [whole])⟩
  have here := start.splits_rotateRight
  have behind := here.splits_rotateRight
  have le : text.toSlice.startPos ≤ start.rotateRight := Slice.Pos.startPos_le _
  have longest : IsLongestMatchAt mark start.rotateRight here.rotateRight :=
    isLongestMatchAt_iff_splits.2 ⟨_, _, here, behind⟩
  have earlier : ∀ pos, text.toSlice.startPos ≤ pos → pos < start.rotateRight →
      ¬ MatchesAt mark pos := by
    intro pos _ before
    exact not_matchesAt_of_firstAtEnd (by simpa using first) here before
  refine ⟨(Model.split mark here.rotateRight here.rotateRight (Std.le_refl _)).map
    fun sub => sub.toSlice.copy, by simpa using modelSplit_ne_nil _, ?_⟩
  rw [partsBetween_eq_modelSplit nonempty, split_eq_of_not_matchesAt _ le earlier,
    split_eq_of_isLongestMatchAt longest, List.map_cons, copy_subslice le start here]

end

end PushNotice.Text
