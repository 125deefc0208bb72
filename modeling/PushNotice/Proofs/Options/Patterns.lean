import Mathlib.Data.List.Basic
import PushNotice.Proofs.Options.Settings

/-!
# PushNotice.Proofs.Options.Patterns

**Patterns as a list or as lines.** A file holds patterns as a list or as a text with one of them a
line, and an input holds them as such a text. The plain texts of the items of a list are pared like
the lines of a text (`patternsOfItems_of_plainTexts`), so that it does not matter which way is chosen,
nor whether lines end with a carriage return.
-/

namespace PushNotice.Options

open Text (Pared pare pared_iff)

theorem scalarText?_of_hasPlainText {value : Json} {text : String}
    (plain : value.HasPlainText text) :
    scalarText? value = .ok (some text) ∨ text = "" ∧ scalarText? value = .ok none := by
  cases plain with
  | null => exact .inr ⟨rfl, rfl⟩
  | bool b => cases b <;> exact .inl rfl
  | number n => exact .inl rfl
  | string s => exact .inl rfl

/-- **A list holds the patterns that its items are the texts of.** Null and blank items do not
count. -/
theorem patternsOfItems_of_plainTexts {items : List Json} {texts : List String}
    (plain : List.Forall₂ Json.HasPlainText items texts) :
    patternsOfItems items = .ok (pare texts) := by
  obtain ⟨found, read, kept⟩ : ∃ found, items.mapM scalarText? = .ok found ∧
      (found.filterMap fun text => text.map Text.trimmed).filter (!·.isEmpty) = pare texts := by
    induction plain with
    | nil => exact ⟨[], rfl, rfl⟩
    | @cons item text items texts here _ ih =>
      obtain ⟨found, read, kept⟩ := ih
      rw [Text.pare_cons, ← kept]
      rcases scalarText?_of_hasPlainText here with written | ⟨rfl, missing⟩
      · refine ⟨some text :: found, ?_, ?_⟩
        · rw [List.mapM_cons, written, read]
          rfl
        · rw [List.filterMap_cons_some (Option.map_some ..), pare, ← List.singleton_append,
            List.filter_append]
          rfl
      · refine ⟨none :: found, ?_, ?_⟩
        · rw [List.mapM_cons, missing, read]
          rfl
        · rfl
  rw [patternsOfItems, read]
  exact congrArg Except.ok kept

theorem forall₂_hasPlainText_strings (texts : List String) :
    List.Forall₂ Json.HasPlainText (texts.map .string) texts := by
  induction texts with
  | nil => exact .nil
  | cons text texts ih => exact .cons (.string text) ih

/-- **Patterns may be given as a list or as lines, in a file or by an input.** Lines of two texts with
a line feed between them are those of the one and then those of the other, and joined patterns are
parted again. What is in the list or the lines is without the blanks at its ends, and blank entries do
not count; all blanks inside, carriage returns among them, stay. -/
theorem patterns_listed_or_joined :
    (∀ a b : String, linesOfInput (a ++ "\n" ++ b) = linesOfInput a ++ linesOfInput b) ∧
    ∀ lineBreak ∈ ["\n", "\r\n"],
      (∀ text, linesOfInput (lineBreak.intercalate (linesOfInput text)) = linesOfInput text) ∧
      ∀ items : List String, (∀ item ∈ items, '\n' ∉ item.toList) →
        ∃ patterns, Pared items patterns ∧
          patternsOfValue (.array (items.map .string)) = .ok patterns ∧
          patternsOfValue (.string (lineBreak.intercalate items)) = .ok patterns ∧
          ∀ setting ∈ Setting.patternLists,
            initial.apply (setting.input (lineBreak.intercalate items)) =
              setting.put patterns initial := by
  refine ⟨Text.trimmedLines_append, fun lineBreak mem => ?_⟩
  -- Both are a line feed behind blanks, if any.
  obtain ⟨gap, rfl, blank, unbroken⟩ : ∃ gap, lineBreak = gap ++ "\n" ∧
      Text.isBlankText gap = true ∧ '\n' ∉ gap.toList := by
    simp only [List.mem_cons, List.not_mem_nil, or_false] at mem
    rcases mem with rfl | rfl
    · exact ⟨"", rfl, by decide, by decide⟩
    · exact ⟨"\r", rfl, by decide, by decide⟩
  refine ⟨Text.trimmedLines_intercalate_trimmedLines blank unbroken, fun items whole => ?_⟩
  have lines : linesOfInput ((gap ++ "\n").intercalate items) = pare items :=
    Text.trimmedLines_intercalate blank unbroken whole
  refine ⟨pare items, pared_iff.2 rfl, ?_, congrArg _ lines, fun setting isPatterns => ?_⟩
  · exact patternsOfItems_of_plainTexts (forall₂_hasPlainText_strings items)
  · rw [setting.apply_input_initial, (Setting.of_mem_patternLists isPatterns).2, lines]

/-- Carriage returns before the line feeds and inside a pattern, and an entry of nothing but
blanks. -/
theorem patterns_listed_or_joined_carriage_returns :
    let items := [" ^fix\t", "\u3000\r", "a\rb  c \r"]
    let patterns := ["^fix", "a\rb  c"]
    (∀ item ∈ items, '\n' ∉ item.toList) ∧ Pared items patterns ∧
    patternsOfValue (.array (items.map .string)) = .ok patterns ∧
    patternsOfValue (.string ("\r\n".intercalate items)) = .ok patterns ∧
    (initial.apply { Overrides.empty with
      excludeCommits := some ("\r\n".intercalate items) }).excludeCommits = patterns := by
  intro items patterns
  have whole : ∀ item ∈ items, '\n' ∉ item.toList := by decide
  obtain ⟨found, pared, listed, joined, given⟩ :=
    (patterns_listed_or_joined.2 "\r\n" (by decide)).2 items whole
  obtain rfl : patterns = found := Eq.trans (by decide +kernel) (pared_iff.1 pared)
  exact ⟨whole, pared, listed, joined, congrArg Options.excludeCommits
    (given .excludeCommits (List.mem_cons_of_mem _ List.mem_cons_self))⟩

end PushNotice.Options
