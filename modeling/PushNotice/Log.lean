import PushNotice.Text.Hex
import PushNotice.Text.Quoted

/-!
# PushNotice.Log

**What a run reports while it works.** An event has a level, a message and named fields. A filter
decides which events are shown, and each shown event is one line.
-/

namespace PushNotice.Log

/-- How much an event matters, the weightiest first. -/
inductive Level where
  | error
  | warn
  | info
  | debug
  | trace
deriving DecidableEq, Repr

def Level.name : Level → String
  | .error => "ERROR"
  | .warn => "WARN"
  | .info => "INFO"
  | .debug => "DEBUG"
  | .trace => "TRACE"

/-- The lower a level, the more it matters. -/
def Level.rank : Level → Nat
  | .error => 1
  | .warn => 2
  | .info => 3
  | .debug => 4
  | .trace => 5

/-- Something that happened in a run. -/
inductive Event where
  /-- The template that was asked for is not there, and another one is used. -/
  | templateUnknown (requested fallback : String)
  /-- A string of a template was left empty, for the reason given. -/
  | fieldBlanked (field reason : String)
  | templateRegistered (template path : String)
  | templatesLoaded (directory : String) (count : Nat)
  | optionsFile (path : String)
  | templateUsed (template : String)
  /-- A commit was left out because no include pattern is found in its message. -/
  | commitNotIncluded (message : String)
  /-- A commit was left out because an exclude pattern is found in its message. -/
  | commitExcluded (message pattern : String)
  | assembling (total selected quota extras : Nat)
  | rendered (template : String) (commits embeds : Nat)
  | posting (host : String) (embeds : Nat)
  | delivered (status : Nat)
deriving DecidableEq, Repr

/-! ### Fields -/

/-- The value of a field: a text that a line shows in quotes or as it is. -/
inductive Value where
  | quoted (text : String)
  | bare (text : String)
deriving DecidableEq, Repr

def Value.text : Value → String
  | .quoted text => text
  | .bare text => text

/-- A number as the value of a field. -/
def Value.ofNat (n : Nat) : Value :=
  .bare (toString n)

def Event.level : Event → Level
  | .templateUnknown .. | .fieldBlanked .. => .warn
  | .rendered .. | .delivered .. => .info
  | _ => .debug

/-- The message of an event. -/
def Event.message : Event → String
  | .templateUnknown requested fallback =>
    "template '" ++ requested ++ "' is not registered; using '" ++ fallback ++ "'"
  | .fieldBlanked _ reason => reason ++ "; field left empty"
  | .templateRegistered .. => "registered template"
  | .templatesLoaded .. => "loaded templates"
  | .optionsFile _ => "loading options file"
  | .templateUsed _ => "using template"
  | .commitNotIncluded _ => "commit skipped: no include pattern matched"
  | .commitExcluded .. => "commit skipped: exclude pattern matched"
  | .assembling .. => "assembling notification"
  | .rendered .. => "notification rendered"
  | .posting .. => "posting notification"
  | .delivered _ => "notification delivered"

/-- The fields of an event besides its message, in order. The message of a commit stands under
the same name as that of the event. -/
def Event.fields : Event → List (String × Value)
  | .templateUnknown requested _ => [("requested", .quoted requested)]
  | .fieldBlanked field _ => [("field", .quoted field)]
  | .templateRegistered template path => [("template", .quoted template), ("path", .bare path)]
  | .templatesLoaded directory count => [("dir", .bare directory), ("loaded", .ofNat count)]
  | .optionsFile path => [("path", .bare path)]
  | .templateUsed template => [("template", .quoted template)]
  | .commitNotIncluded message => [("message", .bare message)]
  | .commitExcluded message pattern => [("message", .bare message), ("pattern", .quoted pattern)]
  | .assembling total selected quota extras =>
    [("total", .ofNat total), ("selected", .ofNat selected), ("quota", .ofNat quota),
      ("extras", .ofNat extras)]
  | .rendered template commits embeds =>
    [("template", .quoted template), ("commits", .ofNat commits), ("embeds", .ofNat embeds)]
  | .posting host embeds => [("host", .quoted host), ("embeds", .ofNat embeds)]
  | .delivered status => [("status", .ofNat status)]

/-! ### Lines -/

/-- A character of a message on a line: one that could steer a terminal is shown by its code. -/
def showChar (c : Char) : List Char :=
  let n := c.toNat
  if n == 0x1B || n == 0x07 || n == 0x08 || n == 0x0C || n == 0x7F then
    ['\\', 'x', Text.lowerHexDigit (n / 16), Text.lowerHexDigit (n % 16)]
  else if 0x80 ≤ n ∧ n ≤ 0x9F then
    ['\\', 'u', '\x7b', Text.lowerHexDigit (n / 16), Text.lowerHexDigit (n % 16), '\x7d']
  else [c]

/-- A message as it stands on a line. -/
def showMessage (message : String) : String :=
  String.ofList (message.toList.flatMap showChar)

/-- A field on a line. A field named `message` shows its value alone. -/
def fieldText : String × Value → String
  | ("message", value) => showMessage value.text
  | (name, .quoted text) => name ++ "=" ++ Text.quoted text
  | (name, .bare text) => name ++ "=" ++ text

/-- The line that shows an event. -/
def Event.line (event : Event) : String :=
  String.intercalate " "
    (event.level.name :: showMessage event.message :: event.fields.map fieldText)

end PushNotice.Log
