import PushNotice.Fault
import PushNotice.Json.Reader

/-!
# PushNotice.Event

**Push events.** An event is a JSON object. Only its `commits` are interpreted: an array, or
nothing, or `null`, which both mean that there are no commits.
-/

namespace PushNotice

/-- A push event. -/
structure PushEvent where
  payload : Json

namespace PushEvent

/-- The event that a value is. -/
def ofJson (payload : Json) : Except EventFlaw PushEvent :=
  match payload with
  | .object members =>
    match Json.Members.find? "commits" members with
    | none | some .null | some (.array _) => .ok ⟨payload⟩
    | some _ => .error .commitsNotArray
  | _ => .error .notObject

/-- The event that a JSON text describes. -/
def ofText (text : String) : Except EventFlaw PushEvent :=
  match Json.ofText? text with
  | some payload => ofJson payload
  | none => .error .notJson

/-- The event in a file. -/
def load (files : Files.Source) (path : String) : Except Fault PushEvent :=
  match files.readText path with
  | .error cause => .error (.eventUnreadable path cause)
  | .ok text => (ofText text).mapError fun flaw => .eventRejected flaw (some path)

/-- The commits of the event, in the order in which they were pushed. -/
def commits (event : PushEvent) : List Json :=
  ((event.payload.get? "commits").bind Json.items?).getD []

end PushEvent

end PushNotice
