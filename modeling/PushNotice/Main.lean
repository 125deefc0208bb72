import PushNotice.Files.Tree
import PushNotice.Program

/-!
# PushNotice.Main

**The command line.** The paths that the arguments name are looked up first, so that the program
proper sees no more of the files than what stands there. There is no transport in this program: a
request gets no answer.
-/

open PushNotice

namespace PushNotice.Main

/-- Why the system refuses a file. -/
def fileError (e : IO.Error) : Files.FileError :=
  match e with
  | .noFileOrDirectory .. => .notFound
  | .inappropriateType .. => .notDirectory
  | e => .refused (toString e)

/-- The file at a path. -/
def readNode (path : String) : IO Files.Node := do
  try
    return .file (← IO.FS.readBinFile path).toList
  catch e =>
    return .unreadable (fileError e)

/-- The entries of a directory by the bytes of their names. Only what is in regular files is looked
at; all else counts as a directory. -/
def readEntries (path : String) : IO (List (List UInt8 × Files.Node)) := do
  let here : IO.FS.DirEntry := ⟨path, ""⟩
  (← here.root.readDir).toList.mapM fun entry => do
    let regular ← try pure ((← entry.path.metadata).type == .file) catch _ => pure false
    let node ← if regular then readNode (Files.entryPath path entry.fileName)
      else pure (.directory [])
    return (Text.encode entry.fileName, node)

/-- What stands at a path. -/
def look (path : String) : IO (Except Files.FileError Files.Node) := do
  try
    return .ok (.directory (Files.seen (← readEntries path)))
  catch _ =>
    match ← readNode path with
    | .unreadable cause => return .error cause
    | node => return .ok node

/-- The paths that a command reads. -/
def pathsOf : CommandLine.Command → List String
  | .send run | .render run => [run.eventPath, run.optionsPath, run.templatesPath].filterMap id
  | .templates directory => directory.toList

/-- The files of a command. -/
def sourceOf (command : CommandLine.Command) : IO Files.Source := do
  let seen ← (pathsOf command).mapM fun path => do return (path, ← look path)
  return ⟨fun path => (seen.lookup path).getD (.error .notFound)⟩

/-- The variables in the block that the system keeps for a process, each ended by a null. -/
def variablesOf (block : List UInt8) : List (String × String) :=
  (Text.splitAtMark '\x00' (Text.decodeLossy block).toList).filterMap fun line =>
    Text.cutString? "=" (String.ofList line)

/-- The environment. -/
def environment : IO Environment := do
  return .ofPairs (variablesOf (← IO.FS.readBinFile "/proc/self/environ").toList)

end PushNotice.Main

open PushNotice.Main in
def main (arguments : List String) : IO UInt32 := do
  let env ← environment
  let files ←
    match CommandLine.read env arguments with
    | .error _ => pure ⟨fun _ => .error .notFound⟩
    | .ok invocation => sourceOf invocation.command
  let report := Program.report "the text is malformed" files (fun _ => none) env arguments
  IO.print report.stdout
  IO.eprint report.stderr
  return report.exitCode.toUInt32
