import PushNotice.Commit.Annotation
import PushNotice.Placeholder.Lookup
import PushNotice.Proofs.Json.Keys

/-!
# PushNotice.Proofs.Commit.Annotation

**What is found in a completed commit record.** A field is that of the record if the record has it,
and the derived one if not (`get?_annotate`). A message is parted at its first blank line, which is
all that there is to know about its two parts (`partedAs_iff`).
-/

namespace PushNotice.Commit

open Placeholder (Path step? lookup? textAt valueText)

/-! ### Messages -/

/-- The parts of a message. -/
inductive PartedAs (message : String) : MessageParts → Prop where
  /-- The title goes up to the first blank line, and the description from there on. -/
  | parted {title description : String} (first : Text.FirstAtEnd ['\n', '\n'] title.toList)
      (whole : message = title ++ "\n\n" ++ description) : PartedAs message ⟨title, description⟩
  /-- Without a blank line all of it is title, and the description is a zero-width space. -/
  | whole (unparted : ¬ ['\n', '\n'] <:+: message.toList) : PartedAs message ⟨message, "\u200B"⟩

/-- **A message has one title and one description.** -/
theorem partedAs_iff {message : String} {parts : MessageParts} :
    PartedAs message parts ↔ splitMessage message = parts := by
  constructor
  · intro h
    unfold splitMessage
    cases h with
    | @parted title description first whole =>
      have cut : Text.cut? paragraphBreak message.toList =
          some (title.toList, description.toList) :=
        Text.cut?_eq_some_iff.2 ⟨by simp [whole, paragraphBreak], first⟩
      simp [cut]
    | whole unparted =>
      have uncut : Text.cut? paragraphBreak message.toList = none :=
        Text.cut?_eq_none_iff.2 unparted
      rw [uncut]
      rfl
  · rintro rfl
    unfold splitMessage
    split
    · next title description cut =>
      obtain ⟨whole, first⟩ := Text.cut?_eq_some_iff.1 cut
      refine .parted (by rwa [String.toList_ofList]) ?_
      rw [← String.toList_inj, whole]
      simp [paragraphBreak]
    · next uncut => exact .whole (Text.cut?_eq_none_iff.1 uncut)

/-! ### Fields -/

section

variable {record : Json}

theorem nodup_ownFields (h : record.KeysOnce) : ((ownFields record).map Prod.fst).Nodup := by
  cases h with
  | object distinct => exact distinct
  | _ => exact List.nodup_nil

theorem find?_ownFields (record : Json) (key : String) :
    Json.Members.find? key (ownFields record) = record.get? key := by
  cases record <;> rfl

/-- **A field of a record stays what it is**, and only other fields are derived. -/
theorem get?_annotate (h : record.KeysOnce) (key : String) :
    (annotate record).get? key =
      (record.get? key).or (Json.Members.find? key (derivedFields record)) := by
  rw [← find?_ownFields record]
  exact Json.Members.find?_foldl_insert (nodup_ownFields h) key

theorem find?_derivedFields_title :
    Json.Members.find? "title" (derivedFields record) =
      some (.string (splitMessage (messageOf record)).title) := by
  unfold derivedFields
  split <;> rfl

theorem find?_derivedFields_description :
    Json.Members.find? "description" (derivedFields record) =
      some (.string (splitMessage (messageOf record)).description) := by
  unfold derivedFields
  split <;> rfl

theorem find?_derivedFields_author : Json.Members.find? "author" (derivedFields record) = none := by
  unfold derivedFields
  split <;> rfl

/-! ### Texts -/

/-- The text of a field of the record, or another text if the record has no such field. -/
def ownText (record : Json) (key otherwise : String) : String :=
  ((record.get? key).map valueText).getD otherwise

theorem textAt_annotate_derived (h : record.KeysOnce) {key text : String}
    (derived : Json.Members.find? key (derivedFields record) = some (.string text)) :
    textAt (annotate record) [.key key] = ownText record key text := by
  have found : lookup? (annotate record) [.key key] = (annotate record).get? key := by
    simp [annotate, step?, Json.get?]
  rw [textAt, found, get?_annotate h, derived, ownText]
  cases record.get? key <;> rfl

/-- A key that is no numeral leads into objects only. -/
theorem step?_of_not_numeral {key : String} (h : Decimal.word? key.toList = none) (j : Json) :
    step? j (.key key) = j.get? key := by
  cases j with
  | array items =>
    change (Decimal.word? key.toList).bind (fun n => items[n]?) = none
    rw [h, Option.bind_none]
  | object members => rfl
  | null | bool | number | string => rfl

/-- Behind a field that is not derived, a completed record is what the record is. -/
theorem textAt_annotate_own (h : record.KeysOnce) {key : String}
    (own : Json.Members.find? key (derivedFields record) = none)
    (notNumeral : Decimal.word? key.toList = none) (rest : Path) :
    textAt (annotate record) (.key key :: rest) = textAt record (.key key :: rest) := by
  unfold textAt
  rw [Placeholder.lookup?_cons, Placeholder.lookup?_cons, step?_of_not_numeral notNumeral,
    step?_of_not_numeral notNumeral, get?_annotate h, own, Option.or_none]

end

end PushNotice.Commit
