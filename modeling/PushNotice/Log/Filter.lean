import PushNotice.Decimal.Unsigned
import PushNotice.Log
import PushNotice.Text.Blank
import PushNotice.Text.Split
import PushNotice.Unicode.Property

/-!
# PushNotice.Log.Filter

**Which events are shown.** A directive is a list of parts separated by commas. A part is a level,
or an area of the program, a level for it, or both; an area may be narrowed down to events with a
certain field, as in `area[{field}]=level`. Of the parts that an event falls under, the most
specific one decides: it shows the event if its level lets events of that weight through.
-/

namespace PushNotice.Log

/-! ### Areas -/

/-- The area of the program that an event comes from. -/
def Event.area : Event → String
  | .templateUnknown .. | .templateRegistered .. => "herald::template::registry"
  | .fieldBlanked .. => "herald::template::materialize"
  | .templatesLoaded .. | .optionsFile _ | .templateUsed _ | .rendered .. =>
    "herald::commands::payload"
  | .commitNotIncluded _ | .commitExcluded .. => "herald::pipeline::filter"
  | .assembling .. => "herald::pipeline::assemble"
  | .posting .. | .delivered _ => "herald::delivery::client"

/-- The names of all fields of an event. -/
def Event.fieldNames (event : Event) : List String :=
  "message" :: event.fields.map (·.1)

/-! ### Rules -/

/-- The level up to which events are shown, or nothing if none are. -/
abbrev Threshold := Option Level

/-- What a part of a directive says about the events of an area. -/
structure Rule where
  /-- How the area of an event has to begin. -/
  area : List Char
  /-- A field that an event has to have. -/
  field : Option String
  threshold : Threshold
deriving DecidableEq, Repr

/-- Whether events of a level are shown. -/
def admits (threshold : Threshold) (level : Level) : Bool :=
  match threshold with
  | none => false
  | some limit => level.rank ≤ limit.rank

namespace Rule

/-- Whether an event falls under a rule. -/
def concerns (rule : Rule) (event : Event) : Bool :=
  rule.area.isPrefixOf event.area.toList &&
    match rule.field with
    | none => true
    | some field => event.fieldNames.contains field

/-- Whether a rule is at least as specific as another one: it names a longer area, or as long a
one and a field. Of two fields the one that comes later in the alphabet counts for more. -/
def isAsSpecific (rule other : Rule) : Bool :=
  if rule.area.length = other.area.length then
    match rule.field, other.field with
    | _, none => true
    | none, some _ => false
    | some field, some otherField => otherField ≤ field
  else other.area.length < rule.area.length

/-- The more specific one of two rules; the later one if they do not differ in that. -/
def prefer (best : Option Rule) (rule : Rule) : Option Rule :=
  match best with
  | none => some rule
  | some other => if rule.isAsSpecific other then some rule else some other

end Rule

/-! ### Directives -/

/-- The threshold that a word or a digit names. -/
def Threshold.ofText? (text : List Char) : Option Threshold :=
  match Decimal.word? text with
  | some 0 => some none
  | some 1 => some (some .error)
  | some 2 => some (some .warn)
  | some 3 => some (some .info)
  | some 4 => some (some .debug)
  | some 5 => some (some .trace)
  | _ =>
    match (String.ofList text).toLower with
    | "off" => some none
    | "error" => some (some .error)
    | "warn" => some (some .warn)
    | "info" => some (some .info)
    | "debug" => some (some .debug)
    | "trace" => some (some .trace)
    | _ => none

/-- The threshold after an area: everything is shown if none is written. -/
def readThreshold? : List Char → Option Threshold
  | [] | ['='] => some (some .trace)
  | '=' :: text => Threshold.ofText? text
  | _ => none

/-- The rest of a part after the opening bracket that follows its area. A part about events inside
of a named span, or about the value of a field, is well formed but a rule for no event here. -/
def readBracket? (area rest : List Char) : Option (List Rule) :=
  let (span, rest) := rest.span fun c => c != ']' && c != '\x7b'
  match rest with
  | ']' :: rest => (readThreshold? rest).map fun _ => []
  | '\x7b' :: rest =>
    let (field, rest) := rest.span fun c => c != '\x7d'
    match field, rest with
    | _ :: _, '\x7d' :: ']' :: rest =>
      (readThreshold? rest).map fun threshold =>
        if span.isEmpty && !field.contains '=' then
          [⟨area, some (String.ofList field), threshold⟩]
        else []
    | _, _ => none
  | _ => none

/-- The rules of a part of a directive; nothing if it is malformed. -/
def readPart? (part : List Char) : Option (List Rule) :=
  match part with
  | [] => none
  | '[' :: rest => readBracket? [] rest
  | c :: _ =>
    if !(c == '-' || c == ':' || c == '_' || Unicode.alphanumeric.contains c) then none
    else
      let (area, rest) := part.span fun c => c != '=' && c != '['
      match rest with
      | '[' :: rest => readBracket? area rest
      | [] =>
        match Threshold.ofText? area with
        | some threshold => some [⟨[], none, threshold⟩]
        | none => some [⟨area, none, some .trace⟩]
      | rest => (readThreshold? rest).map fun threshold => [⟨area, none, threshold⟩]

/-! ### Filters -/

/-- Decides which events are shown. -/
structure Filter where
  rules : List Rule
deriving DecidableEq, Repr

namespace Filter

/-- The filter that shows events up to a level, wherever they come from. -/
def upTo (level : Level) : Filter :=
  ⟨[⟨[], none, some level⟩]⟩

/-- The filter that a directive describes; nothing if it is malformed. Without any part it shows
errors only. -/
def ofDirective? (directive : String) : Option Filter :=
  match (Text.splitAtMark ',' directive.toList).filter (!·.isEmpty) with
  | [] => some (upTo .error)
  | parts => (parts.mapM fun part => readPart? (Text.trim part)).map fun rules => ⟨rules.flatten⟩

/-- The filter for a directive. A malformed one is like the usual one. -/
def ofDirective (directive : String) : Filter :=
  (ofDirective? directive).getD (upTo .warn)

/-- Whether an event is shown. -/
def shows (filter : Filter) (event : Event) : Bool :=
  match (filter.rules.filter (·.concerns event)).foldl Rule.prefer none with
  | none => false
  | some rule => admits rule.threshold event.level

/-- The lines that show events. -/
def lines (filter : Filter) (events : List Event) : List String :=
  (events.filter filter.shows).map Event.line

end Filter

/-! ### The directive of a run -/

/-- The variable that holds a directive. -/
def directiveVariable : String := "HERALD_LOG"

/-- The directive of a run: the one that is given, or else one that shows warnings or, in a
verbose run, all that is reported. -/
def directive (given : Option String) (verbose : Bool) : String :=
  given.getD (if verbose then "debug" else "warn")

end PushNotice.Log
