import PushNotice.Commit.Message
import PushNotice.Json.Basic

/-!
# PushNotice.Commit.Annotation

**Commit records completed for templates.** A record gains a title, a description and, if it has
a textual id, a short id. Fields that the record already carries keep their values.
-/

namespace PushNotice.Commit

/-- The message of a record, empty unless the record has a textual one. -/
def messageOf (record : Json) : String :=
  (record.textOf? "message").getD ""

/-- The number of characters of a short id. -/
def shortIdLength : Nat := 7

/-- The first characters of an id. -/
def shortId (id : String) : String :=
  String.ofList (id.toList.take shortIdLength)

/-- The fields that are derived from a record. -/
def derivedFields (record : Json) : Json.Members :=
  let parts := splitMessage (messageOf record)
  let base := [("title", Json.string parts.title), ("description", Json.string parts.description)]
  match record.textOf? "id" with
  | some id => base ++ [("short_id", .string (shortId id))]
  | none => base

/-- The fields of a record that is an object. -/
def ownFields : Json → Json.Members
  | .object members => members
  | _ => []

/-- The record with its derived fields in front. -/
def annotate (record : Json) : Json :=
  .object ((ownFields record).foldl
    (fun fields (key, value) => Json.Members.insert key value fields) (derivedFields record))

end PushNotice.Commit
