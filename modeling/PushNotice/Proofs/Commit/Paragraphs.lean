import PushNotice.Proofs.Commit.Annotation
import PushNotice.Proofs.Text.Splitting

/-!
# PushNotice.Proofs.Commit.Paragraphs

**A message and its paragraphs.** The title of a message is the first of its paragraphs, and the
others make up the description. Nothing of a message is lost on the way but for one thing: a message
of one paragraph gets the description that another message has whose rest is a zero-width space
(`splitMessage_eq_iff`).
-/

namespace PushNotice.Commit

/-- A text that can stand before a blank line as a title: there is none in it, and none begins where
it ends. -/
def IsTitle (title : String) : Prop :=
  ¬ ['\n', '\n'] <:+: title.toList ∧ title.toList.getLast? ≠ some '\n'

section

variable {message other : String} {parts : MessageParts}

/-- The title is the first paragraph, and the others make up the description. -/
theorem PartedAs.paragraphs (h : PartedAs message parts) :
    ∃ others, Text.partsBetween "\n\n" message = parts.title :: others ∧
      parts.description = if others = [] then "\u200B" else "\n\n".intercalate others := by
  have some_mark : "\n\n" ≠ "" := by decide
  cases h with
  | @parted title description first whole =>
    have cut : Text.cut? "\n\n".toList message.toList = some (title.toList, description.toList) :=
      Text.cut?_eq_some_iff.2 ⟨by simp [whole], first⟩
    obtain ⟨others, more, split⟩ := Text.partsBetween_of_cut some_mark cut
    rw [String.ofList_toList] at split
    have joined :
        title ++ "\n\n" ++ "\n\n".intercalate others = title ++ "\n\n" ++ description := by
      rw [← whole, ← String.intercalate_cons_of_ne_nil more, ← split,
        Text.intercalate_partsBetween some_mark]
    exact ⟨others, split, by rw [if_neg more, (String.append_right_inj _).1 joined]⟩
  | whole unparted =>
    have uncut : Text.cut? "\n\n".toList message.toList = none := Text.cut?_eq_none_iff.2 unparted
    exact ⟨[], Text.partsBetween_of_uncut some_mark uncut, rfl⟩

theorem PartedAs.not_infix_title (h : PartedAs message parts) :
    ¬ ['\n', '\n'] <:+: parts.title.toList := by
  cases h with
  | parted first whole => exact (Text.firstAtEnd_pair_iff.1 first).1
  | whole unparted => exact unparted

/-- With the blank line between them the parts of a message that has one make up the message. -/
theorem PartedAs.rejoined (h : PartedAs message parts) (broken : ['\n', '\n'] <:+: message.toList) :
    parts.title.toList.getLast? ≠ some '\n' ∧
      message = parts.title ++ "\n\n" ++ parts.description := by
  cases h with
  | parted first whole => exact ⟨(Text.firstAtEnd_pair_iff.1 first).2, whole⟩
  | whole unparted => exact absurd broken unparted

/-- Two messages with the same parts are the same, unless one is parted and the other is not. -/
theorem PartedAs.eq_or_marked (h : PartedAs message parts) (h' : PartedAs other parts) :
    message = other ∨ ∃ title, IsTitle title ∧
      ((message = title ∧ other = title ++ "\n\n" ++ "\u200B") ∨
        (message = title ++ "\n\n" ++ "\u200B" ∧ other = title)) := by
  cases h with
  | parted first whole =>
    cases h' with
    | parted _ whole' => exact .inl (whole.trans whole'.symm)
    | whole _ => exact .inr ⟨other, Text.firstAtEnd_pair_iff.1 first, .inr ⟨whole, rfl⟩⟩
  | whole _ =>
    cases h' with
    | parted first whole =>
      exact .inr ⟨message, Text.firstAtEnd_pair_iff.1 first, .inl ⟨rfl, whole⟩⟩
    | whole _ => exact .inl rfl

theorem splitMessage_of_isTitle {title : String} (h : IsTitle title) :
    splitMessage title = splitMessage (title ++ "\n\n" ++ "\u200B") := by
  have alone : splitMessage title = ⟨title, "\u200B"⟩ := partedAs_iff.1 (.whole h.1)
  have marked : splitMessage (title ++ "\n\n" ++ "\u200B") = ⟨title, "\u200B"⟩ :=
    partedAs_iff.1 (.parted (Text.firstAtEnd_pair_iff.2 h) rfl)
  rw [alone, marked]

/-- **Which messages have the same parts**: no two, but for a title alone and the same title with a
zero-width space as the rest. -/
theorem splitMessage_eq_iff :
    splitMessage message = splitMessage other ↔
      message = other ∨ ∃ title, IsTitle title ∧
        ((message = title ∧ other = title ++ "\n\n" ++ "\u200B") ∨
          (message = title ++ "\n\n" ++ "\u200B" ∧ other = title)) := by
  constructor
  · intro same
    exact (partedAs_iff.2 same).eq_or_marked (partedAs_iff.2 rfl)
  · rintro (rfl | ⟨title, isTitle, ⟨rfl, rfl⟩ | ⟨rfl, rfl⟩⟩)
    · rfl
    · exact splitMessage_of_isTitle isTitle
    · exact (splitMessage_of_isTitle isTitle).symm

end

/-- **A message is parted as its paragraphs are.** The title is the first of them and the
description is the others with blank lines between them, or a zero-width space if there are none.
The title has no blank line. If the message has one, the title does not reach into it, and the two
parts make up the message. Two messages have the same parts only if they are the same, or one is a
title and the other the same title with a zero-width space as the rest. -/
theorem splitMessage_by_paragraphs (message : String) :
    (∃ title others, Text.partsBetween "\n\n" message = title :: others ∧
      splitMessage message =
        ⟨title, if others = [] then "\u200B" else "\n\n".intercalate others⟩) ∧
    ¬ ['\n', '\n'] <:+: (splitMessage message).title.toList ∧
    (['\n', '\n'] <:+: message.toList →
      (splitMessage message).title.toList.getLast? ≠ some '\n' ∧
      message = (splitMessage message).title ++ "\n\n" ++ (splitMessage message).description) ∧
    ∀ other, splitMessage message = splitMessage other ↔
      message = other ∨ ∃ title, IsTitle title ∧
        ((message = title ∧ other = title ++ "\n\n" ++ "\u200B") ∨
          (message = title ++ "\n\n" ++ "\u200B" ∧ other = title)) := by
  have parted : PartedAs message (splitMessage message) := partedAs_iff.2 rfl
  obtain ⟨others, split, description⟩ := parted.paragraphs
  refine ⟨⟨_, others, split, ?_⟩, parted.not_infix_title, parted.rejoined,
    fun other => splitMessage_eq_iff⟩
  rw [← description]

/-- Of three newlines the first two are the blank line. -/
theorem splitMessage_by_paragraphs_three_newlines :
    ['\n', '\n'] <:+: "one\n\n\ntwo\n\n".toList ∧
    splitMessage "one\n\n\ntwo\n\n" = ⟨"one", "\ntwo\n\n"⟩ ∧
    "one\n\n\ntwo\n\n" = "one" ++ "\n\n" ++ "\ntwo\n\n" := by
  have broken : ['\n', '\n'] <:+: "one\n\n\ntwo\n\n".toList :=
    ⟨"one".toList, "\ntwo\n\n".toList, by decide⟩
  have parts : splitMessage "one\n\n\ntwo\n\n" = ⟨"one", "\ntwo\n\n"⟩ := by decide +kernel
  have whole := ((splitMessage_by_paragraphs "one\n\n\ntwo\n\n").2.2.1 broken).2
  rw [parts] at whole
  exact ⟨broken, parts, whole⟩

end PushNotice.Commit
