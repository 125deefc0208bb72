import PushNotice.Files.Basic
import PushNotice.Flaw
import PushNotice.Url.Error

/-!
# PushNotice.Fault

**What can go wrong in a run.** A fault is a cause; its kind decides the exit code and its message
says what to do about it. What the reader of a malformed text has to say about it is a parameter
of the wording, as only that a text is malformed is part of the cause.
-/

namespace PushNotice

/-- Why an event is not accepted. -/
inductive EventFlaw where
  | notJson
  | notObject
  | commitsNotArray
deriving DecidableEq, Repr

/-- Why a notice was not delivered. -/
inductive DeliveryFlaw where
  /-- There is no client to make a request with; the account is that of the library. -/
  | noClient (account : String)
  /-- No answer was received; the account is that of the library. -/
  | noAnswer (account : String)
  /-- The answer was a refusal: its status, the reason for it and what its body says. -/
  | refused (status : Nat) (reason body : String)
deriving DecidableEq, Repr

/-- A cause of failure. -/
inductive Fault where
  | optionsUnreadable (path : String) (cause : Files.FileError)
  | optionsMalformed (flaw : Flaw)
  | templateNameEmpty
  | embedNotJson
  | webhookMissing
  | webhookMalformed (cause : Url.ParseError)
  | webhookScheme (scheme : String)
  | templatesUnreadable (directory : String) (cause : Files.FileError)
  | templateUnreadable (path : String) (cause : Files.FileError)
  | templateMalformed (path : String) (flaw : Flaw)
  | patternMalformed (option pattern : String)
  | eventMissing
  | eventUnreadable (path : String) (cause : Files.FileError)
  /-- The event is not accepted; the path is there if it comes from a file. -/
  | eventRejected (flaw : EventFlaw) (path : Option String)
  | notDelivered (flaw : DeliveryFlaw)
deriving DecidableEq, Repr

/-! ### Kinds -/

/-- Whose fault a fault is. -/
inductive Fault.Kind where
  | user
  | pattern
  | event
  | delivery
deriving DecidableEq, Repr

/-- The exit code of a run that ends well. -/
def successCode : Nat := 0

/-- The exit code of a run that ends with a fault of some kind. -/
def Fault.Kind.exitCode : Kind → Nat
  | .user => 1
  | .pattern => 1
  | .event => 2
  | .delivery => 3

def Fault.kind : Fault → Kind
  | .optionsUnreadable .. | .optionsMalformed .. | .templateNameEmpty | .embedNotJson
  | .webhookMissing | .webhookMalformed .. | .webhookScheme .. | .templatesUnreadable ..
  | .templateUnreadable .. | .templateMalformed .. => .user
  | .patternMalformed .. => .pattern
  | .eventMissing | .eventUnreadable .. | .eventRejected .. => .event
  | .notDelivered .. => .delivery

/-- The exit code of a run that ends with a fault. -/
def Fault.exitCode (fault : Fault) : Nat :=
  fault.kind.exitCode

/-! ### Wording -/

def EventFlaw.message (account : String) : EventFlaw → String
  | .notJson => "event is not valid JSON: " ++ account
  | .notObject => "event must be a JSON object"
  | .commitsNotArray => "event field 'commits' must be an array"

/-- What went wrong, and what is said of it. -/
def DeliveryFlaw.telling (what said : String) : String :=
  what ++ ": " ++ said

def DeliveryFlaw.message : DeliveryFlaw → String
  | .noClient account => telling "failed to create HTTP client" account
  | .noAnswer account => telling "request failed" account
  | .refused status reason body =>
    let answer := "webhook responded with HTTP " ++ toString status ++ " " ++ reason
    if body.isEmpty then answer else telling answer body

/-- What a fault says before its message. -/
def Fault.lead (fault : Fault) : String :=
  match fault.kind with
  | .event => "Event input failed: "
  | .delivery => "Delivery failed: "
  | .user | .pattern => ""

/-- What a fault says of its cause, given the account of a malformed text. -/
def Fault.cause (account : String) : Fault → String
  | .optionsUnreadable path cause =>
    "failed to read options file '" ++ path ++ "': " ++ cause.message
  | .optionsMalformed flaw => "failed to parse options YAML: " ++ flaw.message account
  | .templateNameEmpty => "options validation failed: template must not be empty"
  | .embedNotJson =>
    "options validation failed: embed is not valid JSON: " ++ account ++
      "\nFix: pass a JSON object, or 'false' to use the template's embed."
  | .webhookMissing =>
    "no webhook configured.\nFix: pass --webhook <url> or set INPUT_WEBHOOK."
  | .webhookMalformed cause => "webhook is not a valid URL: " ++ cause.message
  | .webhookScheme scheme => "webhook must use http or https (found '" ++ scheme ++ "')"
  | .templatesUnreadable directory cause =>
    "failed to read templates directory '" ++ directory ++ "': " ++ cause.message
  | .templateUnreadable path cause =>
    "failed to read template file '" ++ path ++ "': " ++ cause.message
  | .templateMalformed path flaw =>
    "failed to parse template file '" ++ path ++ "': " ++ flaw.message account ++
      "\nFix: a template needs a 'message' string and an 'embed' object."
  | .patternMalformed option pattern =>
    "invalid pattern in " ++ option ++ ": '" ++ pattern ++ "' - " ++ account
  | .eventMissing =>
    "no push event given.\nFix: pass --event-path <file> or set GITHUB_EVENT_PATH."
  | .eventUnreadable path cause =>
    "failed to read event file '" ++ path ++ "': " ++ cause.message
  | .eventRejected flaw none => flaw.message account
  | .eventRejected flaw (some path) => flaw.message account ++ " (" ++ path ++ ")"
  | .notDelivered flaw => flaw.message

/-- The message of a fault, given the account of a malformed text. -/
def Fault.message (account : String) (fault : Fault) : String :=
  fault.lead ++ fault.cause account

end PushNotice
