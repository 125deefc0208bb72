import PushNotice.Proofs.Commit.Annotation

/-!
# PushNotice.Proofs.Commit.Completion

**Completing a record adds what it lacks and changes nothing.** The keys that may be derived lead,
whether their values are derived or the record's own, and the other fields of the record follow in
their order. A completed record lacks none of them, and what they would be derived from, its message
and its id, is what it was, so that it is completed already (`annotate_annotate`).
-/

namespace PushNotice.Commit

/-! ### What a completed record is -/

/-- The keys of a record that is an object, in their order. -/
def keys (record : Json) : List String :=
  (ownFields record).map Prod.fst

/-- The keys that a completed record begins with. -/
def leadingKeys (record : Json) : List String :=
  if (record.textOf? "id").isSome then ["title", "description", "short_id"]
  else ["title", "description"]

/-- A beginning of a text that has at most so many characters, and no fewer than any other such
beginning. -/
structure LongestStart (limit : Nat) (text start : String) : Prop where
  begins : start.toList <+: text.toList
  fits : start.length ≤ limit
  longest : ∀ other : String, other.toList <+: text.toList → other.length ≤ limit →
    other.length ≤ start.length

/-- A record and what it is when it is completed. -/
structure Completes (record completed : Json) : Prop where
  keysOnce : completed.KeysOnce
  /-- Whatever the record has, derived keys included, is kept. -/
  own : ∀ key value, record.get? key = some value → completed.get? key = some value
  title : record.get? "title" = none →
    completed.get? "title" = some (.string (splitMessage (messageOf record)).title)
  description : record.get? "description" = none →
    completed.get? "description" = some (.string (splitMessage (messageOf record)).description)
  shortIdThere : (completed.get? "short_id").isSome ↔
    (record.get? "short_id").isSome ∨ ∃ id, record.get? "id" = some (.string id)
  shortId : record.get? "short_id" = none → ∀ id, record.get? "id" = some (.string id) →
    ∃ start, LongestStart 7 id start ∧ completed.get? "short_id" = some (.string start)
  /-- These are all keys. -/
  order : keys completed =
    leadingKeys record ++ (keys record).filter fun key => key ∉ leadingKeys record

/-! ### Texts -/

theorem longestStart_shortId (id : String) : LongestStart 7 id (shortId id) := by
  have length : (shortId id).length = min 7 id.length := by
    rw [shortId, String.length_ofList, List.length_take, String.length_toList]
    rfl
  refine ⟨?_, by omega, fun other begins fits => ?_⟩
  · rw [shortId, String.toList_ofList]
    exact List.take_prefix _ _
  · have within := begins.length_le
    rw [String.length_toList, String.length_toList] at within
    omega

/-- There is only one longest beginning. -/
theorem LongestStart.eq_shortId {id start : String} (h : LongestStart 7 id start) :
    start = shortId id := by
  have own := longestStart_shortId id
  have sameLength : start.toList.length = (shortId id).toList.length := by
    rw [String.length_toList, String.length_toList]
    exact Nat.le_antisymm (own.longest start h.begins h.fits) (h.longest _ own.begins own.fits)
  have within : start.toList <+: (shortId id).toList :=
    List.prefix_of_prefix_length_le h.begins own.begins (Nat.le_of_eq sameLength)
  exact String.toList_inj.1 (within.eq_of_length sameLength)

/-! ### Derived fields -/

section

variable {record : Json}

theorem map_fst_derivedFields : (derivedFields record).map Prod.fst = leadingKeys record := by
  unfold derivedFields leadingKeys
  cases record.textOf? "id" <;> rfl

theorem nodup_leadingKeys (record : Json) : (leadingKeys record).Nodup := by
  unfold leadingKeys
  split <;> decide

theorem find?_derivedFields_shortId :
    Json.Members.find? "short_id" (derivedFields record) =
      (record.textOf? "id").map fun id => .string (shortId id) := by
  unfold derivedFields
  cases record.textOf? "id" <;> rfl

theorem find?_derivedFields_eq_none_iff {key : String} :
    Json.Members.find? key (derivedFields record) = none ↔ key ∉ leadingKeys record := by
  rw [Json.Members.find?_eq_none_iff, map_fst_derivedFields]

/-- What the derived fields are derived from is not derived itself. -/
theorem not_mem_leadingKeys {key : String} (h : key = "message" ∨ key = "id") :
    key ∉ leadingKeys record := by
  unfold leadingKeys
  rcases h with rfl | rfl <;> split <;> decide

theorem keysOnce_of_mem_derivedFields {field : String × Json} (h : field ∈ derivedFields record) :
    field.2.KeysOnce := by
  have each : ∀ field ∈ derivedFields record, field.2.KeysOnce := by
    unfold derivedFields
    split <;> simp [Json.KeysOnce.string]
  exact each field h

/-! ### Completing -/

theorem keysOnce_annotate (h : record.KeysOnce) : (annotate record).KeysOnce := by
  have base : ((derivedFields record).map Prod.fst).Nodup :=
    map_fst_derivedFields ▸ nodup_leadingKeys record
  refine .object (Json.Members.nodup_foldl_insert base) fun field mem => ?_
  rcases Json.Members.mem_foldl_insert mem with own | derived
  · cases h with
    | object _ each => exact each field own
    | _ => exact absurd own List.not_mem_nil
  · exact keysOnce_of_mem_derivedFields derived

/-- **The order of the fields**: the leading keys first, and then the others of the record. -/
theorem keys_annotate (h : record.KeysOnce) :
    keys (annotate record) =
      leadingKeys record ++ (keys record).filter fun key => key ∉ leadingKeys record := by
  rw [← map_fst_derivedFields]
  exact Json.Members.map_fst_foldl_insert (nodup_ownFields h)

theorem get?_annotate_of_some (h : record.KeysOnce) {key : String} {value : Json}
    (own : record.get? key = some value) : (annotate record).get? key = some value := by
  rw [get?_annotate h, own, Option.some_or]

theorem get?_annotate_of_none (h : record.KeysOnce) {key : String}
    (missing : record.get? key = none) :
    (annotate record).get? key = Json.Members.find? key (derivedFields record) := by
  rw [get?_annotate h, missing, Option.none_or]

theorem textOf?_annotate (h : record.KeysOnce) {key : String}
    (source : key = "message" ∨ key = "id") :
    (annotate record).textOf? key = record.textOf? key := by
  have own : Json.Members.find? key (derivedFields record) = none :=
    find?_derivedFields_eq_none_iff.2 (not_mem_leadingKeys source)
  unfold Json.textOf?
  rw [get?_annotate h, own, Option.or_none]

theorem messageOf_annotate (h : record.KeysOnce) :
    messageOf (annotate record) = messageOf record := by
  rw [messageOf, textOf?_annotate h (.inl rfl), messageOf]

theorem leadingKeys_annotate (h : record.KeysOnce) :
    leadingKeys (annotate record) = leadingKeys record := by
  rw [leadingKeys, textOf?_annotate h (.inr rfl), leadingKeys]

theorem mem_keys_annotate_iff {key : String} (h : record.KeysOnce) :
    key ∈ keys (annotate record) ↔ key ∈ leadingKeys record ∨ key ∈ keys record := by
  rw [keys_annotate h, List.mem_append, List.mem_filter]
  by_cases leading : key ∈ leadingKeys record <;> simp [leading]

/-- **A completed record is completed already**, the order of its fields included. -/
theorem annotate_annotate (h : record.KeysOnce) : annotate (annotate record) = annotate record := by
  have again := keysOnce_annotate h
  have order : keys (annotate (annotate record)) = keys (annotate record) := by
    have leading : (leadingKeys record).filter (fun key => key ∉ leadingKeys record) = [] :=
      List.filter_eq_nil_iff.2 fun key mem => by simpa using mem
    rw [keys_annotate again, leadingKeys_annotate h, keys_annotate h, List.filter_append, leading,
      List.nil_append, List.filter_filter]
    simp only [Bool.and_self]
  have values : ∀ key, (annotate (annotate record)).get? key = (annotate record).get? key := by
    intro key
    cases own : (annotate record).get? key with
    | some value => exact get?_annotate_of_some again own
    | none =>
      -- A completed record has all keys for which something could be derived.
      have lacking : key ∉ keys (annotate record) := Json.Members.find?_eq_none_iff.1 own
      rw [get?_annotate_of_none again own, find?_derivedFields_eq_none_iff, leadingKeys_annotate h]
      exact fun leading => lacking ((mem_keys_annotate_iff h).2 (.inl leading))
  exact congrArg Json.object
    (Json.Members.ext_find? (nodup_ownFields (keysOnce_annotate again)) order values)

theorem completes_annotate (h : record.KeysOnce) : Completes record (annotate record) where
  keysOnce := keysOnce_annotate h
  own := fun _ _ own => get?_annotate_of_some h own
  title := fun missing => by rw [get?_annotate_of_none h missing, find?_derivedFields_title]
  description := fun missing => by
    rw [get?_annotate_of_none h missing, find?_derivedFields_description]
  shortIdThere := by
    rw [get?_annotate h, find?_derivedFields_shortId, Option.isSome_or, Option.isSome_map,
      Bool.or_eq_true, Option.isSome_iff_exists (x := record.textOf? "id")]
    simp only [Json.textOf?_eq_some_iff]
  shortId := fun missing id textual => by
    refine ⟨shortId id, longestStart_shortId id, ?_⟩
    rw [get?_annotate_of_none h missing, find?_derivedFields_shortId,
      Json.textOf?_eq_some_iff.2 textual, Option.map_some]
  order := keys_annotate h

end

/-- A value that is no object has only the fields that are derived of any message. -/
theorem annotate_of_not_object {record : Json} (h : ∀ members, record ≠ .object members) :
    annotate record = .object [("title", .string (splitMessage "").title),
      ("description", .string (splitMessage "").description)] := by
  cases record with
  | object members => exact absurd rfl (h members)
  | null | bool | number | string | array => rfl

/-- **A record is completed once and for all.** Its fields keep their values, and it gets a title, a
description and a short id only where it has none of its own; a short id is derived of a textual id
only. The derived keys lead and the others follow in their order. A second time changes nothing, and
the message stays what it is. -/
theorem annotate_completes (record : Json) (h : record.KeysOnce) :
    Completes record (annotate record) ∧
    ((∀ members, record ≠ .object members) →
      annotate record = .object [("title", .string (splitMessage "").title),
        ("description", .string (splitMessage "").description)]) ∧
    annotate (annotate record) = annotate record ∧
    messageOf (annotate record) = messageOf record :=
  ⟨completes_annotate h, annotate_of_not_object, annotate_annotate h, messageOf_annotate h⟩

/-- A record with a title of its own that is no text, and an id that does not begin with a letter of
one byte. -/
theorem annotate_completes_own_title :
    let record := Json.object [("id", .string "é234567890"), ("title", .bool false),
      ("message", .string "one\n\ntwo"), ("x", .null)]
    record.KeysOnce ∧
    keys (annotate record) = ["title", "description", "short_id", "id", "message", "x"] ∧
    (annotate record).get? "title" = some (.bool false) ∧
    (annotate record).get? "description" = some (.string "two") ∧
    (annotate record).get? "short_id" = some (.string "é234567") ∧
    annotate (annotate record) = annotate record := by
  intro record
  have distinct : record.KeysOnce :=
    .object (by decide) (by simp [Json.KeysOnce.string, Json.KeysOnce.bool, Json.KeysOnce.null])
  obtain ⟨completed, -, again, -⟩ := annotate_completes record distinct
  have order := completed.order
  have description := completed.description rfl
  obtain ⟨start, longest, shortened⟩ := completed.shortId rfl "é234567890" rfl
  have parted : (splitMessage (messageOf record)).description = "two" := by decide +kernel
  have first : shortId "é234567890" = "é234567" := by decide +kernel
  rw [parted] at description
  rw [longest.eq_shortId, first] at shortened
  exact ⟨distinct, order, completed.own "title" _ rfl, description, shortened, again⟩

end PushNotice.Commit
