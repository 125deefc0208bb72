import PushNotice.Release
import PushNotice.Run

/-!
# PushNotice.CommandLine.Basic

**What can be said on the command line.** A command has settings, each of which is given as an
option or else through a variable of the environment. Switches may stand with any command.
-/

namespace PushNotice.CommandLine

/-! ### Settings -/

/-- What a run can be given. -/
inductive Setting where
  | template
  | message
  | lastCommitOnly
  | includeExtras
  | includeCommits
  | excludeCommits
  | embed
  | eventPath
  | optionsPath
  | templatesPath
  | webhook
deriving DecidableEq, Repr

/-- What values a setting takes. -/
inductive Setting.Kind where
  | text
  /-- A value that may be left out, as the option alone says yes. -/
  | flag
  /-- A value that may not be empty. -/
  | path
deriving DecidableEq, Repr

namespace Setting

def kind : Setting → Kind
  | .lastCommitOnly | .includeExtras => .flag
  | .eventPath | .optionsPath | .templatesPath => .path
  | _ => .text

/-- The name of the option. -/
def name : Setting → String
  | .template => "template"
  | .message => "message"
  | .lastCommitOnly => "last-commit-only"
  | .includeExtras => "include-extras"
  | .includeCommits => "include-commits"
  | .excludeCommits => "exclude-commits"
  | .embed => "embed"
  | .eventPath => "event-path"
  | .optionsPath => "config"
  | .templatesPath => "templates-dir"
  | .webhook => "webhook"

/-- The variable that is looked at if the option is not there. -/
def source : Setting → String
  | .template => "INPUT_TEMPLATE"
  | .message => "INPUT_MESSAGE"
  | .lastCommitOnly => "INPUT_LAST-COMMIT-ONLY"
  | .includeExtras => "INPUT_INCLUDE-EXTRAS"
  | .includeCommits => "INPUT_INCLUDE-COMMITS"
  | .excludeCommits => "INPUT_EXCLUDE-COMMITS"
  | .embed => "INPUT_EMBED"
  | .eventPath => "GITHUB_EVENT_PATH"
  | .optionsPath => "HERALD_CONFIG"
  | .templatesPath => "HERALD_TEMPLATES_DIR"
  | .webhook => "INPUT_WEBHOOK"

/-- The word that stands for the value. -/
def valueName : Setting → String
  | .template => "TEMPLATE"
  | .message => "MESSAGE"
  | .lastCommitOnly | .includeExtras => "BOOL"
  | .includeCommits | .excludeCommits => "PATTERNS"
  | .embed => "JSON"
  | .eventPath | .optionsPath => "FILE"
  | .templatesPath => "DIR"
  | .webhook => "URL"

/-- The value of an option that is given without one, if that is allowed. -/
def bareValue? (setting : Setting) : Option String :=
  match setting.kind with
  | .flag => some "true"
  | .text | .path => none

/-- The option with its value, as messages show it. -/
def shown (setting : Setting) : String :=
  let value := "<" ++ setting.valueName ++ ">"
  "--" ++ setting.name ++ " " ++
    match setting.kind with
    | .flag => "[" ++ value ++ "]"
    | .text | .path => value

end Setting

/-! ### Commands -/

/-- The commands. -/
inductive CommandName where
  | send
  | render
  | templates
deriving DecidableEq, Repr

namespace CommandName

def text : CommandName → String
  | .send => "send"
  | .render => "render"
  | .templates => "templates"

def ofText? (text : String) : Option CommandName :=
  [CommandName.send, .render, .templates].find? fun name => name.text == text

/-- The settings of a command that builds a notice. -/
def noticeSettings : List Setting :=
  [.template, .message, .lastCommitOnly, .includeExtras, .includeCommits, .excludeCommits,
    .embed, .eventPath, .optionsPath, .templatesPath]

/-- The settings of a command. -/
def settings : CommandName → List Setting
  | .send => noticeSettings ++ [.webhook]
  | .render => noticeSettings
  | .templates => [.templatesPath]

end CommandName

/-- What the program is asked to do. -/
inductive Command where
  | send (run : Run)
  | render (run : Run)
  | templates (directory : Option String)
deriving DecidableEq, Repr

/-- What the program is asked to do, and how much it is to report. -/
structure Invocation where
  verbose : Bool
  command : Command
deriving DecidableEq, Repr

/-! ### Switches -/

/-- The options that stand with any command. -/
inductive Switch where
  | verbose
  | help
  | version
deriving DecidableEq, Repr

namespace Switch

def name : Switch → String
  | .verbose => "verbose"
  | .help => "help"
  | .version => "version"

def letter : Switch → Char
  | .verbose => 'v'
  | .help => 'h'
  | .version => 'V'

/-- All switches. -/
def all : List Switch := [.verbose, .help, .version]

def ofName? (name : String) : Option Switch :=
  all.find? fun s => s.name == name

def ofLetter? (letter : Char) : Option Switch :=
  all.find? fun s => s.letter == letter

end Switch

/-! ### Errors -/

/-- Why a command line is not understood. -/
inductive UsageError where
  /-- There is nothing on it. -/
  | nothingGiven
  | commandMissing
  | unknownCommand (text : String)
  | unexpectedArgument (text : String)
  | unexpectedValue (value : String) (switch : Switch)
  | valueMissing (setting : Setting)
  | settingRepeated (setting : Setting)
  | switchRepeated (switch : Switch)
deriving DecidableEq, Repr

/-- The name of the command that explains others. -/
def helpName : String := "help"

/-- How the program is called. -/
def usage : String :=
  "Usage: " ++ programName ++ " [OPTIONS] <COMMAND>

Commands:
  send       Build the notification and deliver it to the webhook
  render     Build the notification and print it as JSON without delivering
  templates  List the available templates
  help       Print this message
"

/-- The message of an error, on lines of its own. -/
def UsageError.message : UsageError → String
  | .nothingGiven => usage
  | .commandMissing =>
    "error: '" ++ programName ++ "' requires a subcommand but one was not provided\n"
  | .unknownCommand text => "error: unrecognized subcommand '" ++ text ++ "'\n"
  | .unexpectedArgument text => "error: unexpected argument '" ++ text ++ "' found\n"
  | .unexpectedValue value switch =>
    "error: unexpected value '" ++ value ++ "' for '--" ++ switch.name ++
      "' found; no more were expected\n"
  | .valueMissing setting =>
    "error: a value is required for '" ++ setting.shown ++ "' but none was supplied\n"
  | .settingRepeated setting =>
    "error: the argument '" ++ setting.shown ++ "' cannot be used multiple times\n"
  | .switchRepeated switch =>
    "error: the argument '--" ++ switch.name ++ "' cannot be used multiple times\n"

/-- Why there is nothing to run. -/
inductive Stop where
  | error (cause : UsageError)
  /-- The usage is to be shown. -/
  | help
  /-- The version is to be shown, for a command if there is one. -/
  | version (command : Option CommandName)
deriving DecidableEq, Repr

end PushNotice.CommandLine
