import PushNotice.CommandLine.Reader
import PushNotice.Json.Writer
import PushNotice.Log.Filter

/-!
# PushNotice.Program

**The program as a whole.** It reads its command line, does what that asks for, prints what comes
out of it, and reports events and the fault that ended it, if there was one, besides.
-/

namespace PushNotice

open CommandLine (Command Invocation Stop)

/-! ### Commands -/

/-- Does what a command asks for; gives what is printed. -/
def CommandLine.Command.run [Delivery.Http] (files : Files.Source) (transport : Delivery.Transport)
    (env : Environment) : Command → Outcome String
  | .send run => do
    let receipt ← Run.send files transport env run
    return receipt.summary ++ "\n"
  | .render run => do
    let notice ← Run.render files env run
    return notice.toJson.pretty ++ "\n"
  | .templates directory => do
    let registry ← Run.registry files directory
    return String.join (registry.listing.map (· ++ "\n"))

/-- The directive that says which events of an invocation are shown. -/
def CommandLine.Invocation.logDirective (env : Environment) (invocation : Invocation) : String :=
  Log.directive (env.get? Log.directiveVariable) invocation.verbose

namespace Program

/-- What the program leaves. -/
structure Report where
  exitCode : Nat
  stdout : String
  stderr : String
deriving DecidableEq, Repr

/-! ### Reports -/

/-- The exit code for a command line that is not understood. -/
def usageCode : Nat := 2

/-- The version of the program, as it is called for a command. -/
def versionLine (command : Option CommandLine.CommandName) : String :=
  let name :=
    match command with
    | none => programName
    | some command => programName ++ "-" ++ command.text
  name ++ " " ++ version ++ "\n"

/-- The report of a run that does not take place. -/
def stopReport : Stop → Report
  | .error cause => ⟨usageCode, "", cause.message⟩
  | .help => ⟨successCode, CommandLine.usage, ""⟩
  | .version command => ⟨successCode, versionLine command, ""⟩

/-- The report of a run, given the account of a malformed text. -/
def outcomeReport (account : String) (filter : Log.Filter) (outcome : Outcome String) : Report :=
  let shown := String.join ((filter.lines outcome.events).map (· ++ "\n"))
  match outcome.result with
  | .ok printed => ⟨successCode, printed, shown⟩
  | .error fault =>
    ⟨fault.exitCode, "", shown ++ "Error: " ++ fault.message account ++ "\n"⟩

/-- What the program leaves for its arguments, given the account of a malformed text. -/
def report [Delivery.Http] (account : String) (files : Files.Source)
    (transport : Delivery.Transport) (env : Environment) (arguments : List String) : Report :=
  match CommandLine.read env arguments with
  | .error stop => stopReport stop
  | .ok invocation =>
    outcomeReport account (Log.Filter.ofDirective (invocation.logDirective env))
      (invocation.command.run files transport env)

end Program

end PushNotice
