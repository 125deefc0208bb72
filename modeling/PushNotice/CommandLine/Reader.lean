import PushNotice.CommandLine.Basic
import PushNotice.Text.Cut

/-!
# PushNotice.CommandLine.Reader

**Reading a command line.** Arguments are taken one by one. The value of an option follows a sign
of equality or is the next argument, unless that one is an option itself. An option that waits for
its value is settled when the next option is taken or when the command line ends, so an argument
that is not understood is found before a flaw of the option before it. What is not given comes
from the environment.
-/

namespace PushNotice.CommandLine

/-! ### Arguments -/

/-- What an argument looks like. -/
inductive Word where
  /-- Two dashes alone, after which nothing is an option. -/
  | separator
  /-- The name of an option, and the value written to it. -/
  | long (name : String) (value : Option String)
  /-- The letters of switches. -/
  | short (letters : List Char)
  | plain (text : String)
deriving DecidableEq, Repr

def Word.ofText (text : String) : Word :=
  match text.toList with
  | ['-', '-'] => .separator
  | '-' :: '-' :: cs =>
    match Text.cut? ['='] cs with
    | some (name, value) => .long (String.ofList name) (some (String.ofList value))
    | none => .long (String.ofList cs) none
  | '-' :: c :: cs => .short (c :: cs)
  | _ => .plain text

/-! ### What is given -/

/-- What the arguments taken so far give. -/
structure Given where
  verbose : Bool
  values : List (Setting × String)
  /-- An option that is not settled yet, with its value if that is there. -/
  waiting : Option (Setting × Option String)
deriving DecidableEq, Repr

namespace Given

/-- Nothing yet. -/
def nothing : Given :=
  ⟨false, [], none⟩

/-- The value of a setting. -/
def value? (given : Given) (setting : Setting) : Option String :=
  given.values.lookup setting

/-- Gives a setting its value. -/
def put (given : Given) (setting : Setting) (value : Option String) : Except Stop Given :=
  match value.or setting.bareValue? with
  | none => .error (.error (.valueMissing setting))
  | some value =>
    if (given.value? setting).isSome then .error (.error (.settingRepeated setting))
    else if setting.kind = .path ∧ value.isEmpty then .error (.error (.valueMissing setting))
    else .ok { given with values := given.values ++ [(setting, value)] }

/-- Settles the option that waits. -/
def settle (given : Given) : Except Stop Given :=
  match given.waiting with
  | none => .ok given
  | some (setting, value) => { given with waiting := none }.put setting value

/-- Takes a switch. -/
def switch (given : Given) (command : Option CommandName) (switch : Switch) :
    Except Stop Given := do
  let given ← given.settle
  match switch with
  | .help => .error .help
  | .version => .error (.version command)
  | .verbose =>
    if given.verbose then .error (.error (.switchRepeated .verbose))
    else .ok { given with verbose := true }

/-- Takes letters of switches. -/
def letters (given : Given) (command : Option CommandName) : List Char → Except Stop Given
  | [] => .ok given
  | c :: cs =>
    match Switch.ofLetter? c with
    | none => .error (.error (.unexpectedArgument (String.ofList ['-', c])))
    | some s => do (← given.switch command s).letters command cs

/-- Takes an option, with the value that is written to it. -/
def long (given : Given) (command : Option CommandName) (settings : List Setting) (name : String)
    (value : Option String) : Except Stop Given :=
  match Switch.ofName? name, value with
  | some s, none => given.switch command s
  | some s, some value => .error (.error (.unexpectedValue value s))
  | none, _ =>
    match settings.find? fun setting => setting.name == name with
    | none => .error (.error (.unexpectedArgument ("--" ++ name)))
    | some setting => do
      let given ← given.settle
      match value with
      | some value => given.put setting (some value)
      | none => .ok { given with waiting := some (setting, none) }

/-- Takes the values of settings that are not given from the environment, where also an empty one
is a value. -/
def fill (env : Environment) (given : Given) : List Setting → Except Stop Given
  | [] => .ok given
  | setting :: settings =>
    match given.value? setting, env.bindings.get? setting.source with
    | none, some value => do fill env (← given.put setting (some value)) settings
    | _, _ => fill env given settings

/-- The overrides that are given. -/
def overrides (given : Given) : Options.Overrides where
  template := given.value? .template
  message := given.value? .message
  webhook := given.value? .webhook
  lastCommitOnly := given.value? .lastCommitOnly
  includeExtras := given.value? .includeExtras
  includeCommits := given.value? .includeCommits
  excludeCommits := given.value? .excludeCommits
  embed := given.value? .embed

/-- The run that is given. -/
def run (given : Given) : Run where
  overrides := given.overrides
  eventPath := given.value? .eventPath
  optionsPath := given.value? .optionsPath
  templatesPath := given.value? .templatesPath

end Given

/-! ### Commands -/

/-- Takes the arguments of a command. -/
def readArguments (command : CommandName) (given : Given) : List String → Except Stop Given
  | [] => given.settle
  | argument :: rest =>
    match Word.ofText argument with
    | .separator =>
      match rest with
      | [] => given.settle
      | extra :: _ => .error (.error (.unexpectedArgument extra))
    | .long name value => do
      readArguments command (← given.long command command.settings name value) rest
    | .short letters => do
      readArguments command (← given.letters command letters) rest
    | .plain text =>
      match given.waiting with
      | some (setting, none) =>
        readArguments command { given with waiting := some (setting, some text) } rest
      | _ => .error (.error (.unexpectedArgument text))

/-- The command that is given. -/
def commandOf (given : Given) : CommandName → Command
  | .send => .send given.run
  | .render => .render given.run
  | .templates => .templates (given.value? .templatesPath)

/-- Reads a command from its arguments and the environment. -/
def readCommand (env : Environment) (verbose : Bool) (command : CommandName)
    (arguments : List String) : Except Stop Invocation := do
  let given ← readArguments command .nothing arguments
  let given ← given.fill env command.settings
  return ⟨verbose || given.verbose, commandOf given command⟩

/-! ### The whole line -/

/-- Whether a text names a command, the one that explains others included. -/
def isCommand (text : String) : Bool :=
  text == helpName || (CommandName.ofText? text).isSome

/-- Takes what follows the command that explains others: at most the name of a command. -/
def readHelp : List String → Stop
  | [] => .help
  | [name] => if isCommand name then .help else .error (.unknownCommand name)
  | name :: extra :: _ => .error (.unknownCommand (if isCommand name then extra else name))

/-- The flaw of an argument that follows two dashes before any command. -/
def strayArgument (text : String) : UsageError :=
  if isCommand text then .unexpectedArgument text else .unknownCommand text

/-- Takes arguments up to the command, and reads that. -/
def readLine (env : Environment) (given : Given) : List String → Except Stop Invocation
  | [] => .error (.error (if given.verbose then .commandMissing else .nothingGiven))
  | argument :: rest =>
    match Word.ofText argument with
    | .separator =>
      match rest with
      | [] => readLine env given []
      | extra :: _ => .error (.error (strayArgument extra))
    | .long name value => do readLine env (← given.long none [] name value) rest
    | .short letters => do readLine env (← given.letters none letters) rest
    | .plain text =>
      match CommandName.ofText? text with
      | some command => readCommand env given.verbose command rest
      | none => .error (if text == helpName then readHelp rest else .error (.unknownCommand text))

/-- What the program is asked to do by its arguments and its environment. -/
def read (env : Environment) (arguments : List String) : Except Stop Invocation :=
  readLine env .nothing arguments

end PushNotice.CommandLine
