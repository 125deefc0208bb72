import PushNotice.Text.Utf8

/-!
# PushNotice.Files.Basic

**Files as a run sees them.** A run reads texts and lists directories at paths; what stands at a
path is all that it gets to know. Reading and listing fail with the reason that the system would
give.
-/

namespace PushNotice.Files

/-- Why a file or a directory cannot be read. -/
inductive FileError where
  | notFound
  | notDirectory
  | isDirectory
  | notText
  | nulInPath
  /-- Any other reason, in the words of the system. -/
  | refused (account : String)
deriving DecidableEq, Repr

/-- The wording of a reason. -/
def FileError.message : FileError → String
  | .notFound => "No such file or directory (os error 2)"
  | .notDirectory => "Not a directory (os error 20)"
  | .isDirectory => "Is a directory (os error 21)"
  | .notText => "stream did not contain valid UTF-8"
  | .nulInPath => "file name contained an unexpected NUL byte"
  | .refused account => account

/-- A file with its bytes, a file that is there but cannot be read, or a directory with its named
entries. -/
inductive Node where
  | file (bytes : List UInt8)
  | unreadable (cause : FileError)
  | directory (entries : List (String × Node))
deriving Inhabited

/-- What reading a file gives, its bytes or the reason why there are none; a directory is no
file. -/
def Node.contents? : Node → Option (Except FileError (List UInt8))
  | .file bytes => some (.ok bytes)
  | .unreadable cause => some (.error cause)
  | .directory _ => none

/-- The entries of a directory that a run sees, of those that the system lists by the bytes of
their names: an entry whose name is no text is out of sight. -/
def seen (listing : List (List UInt8 × Node)) : List (String × Node) :=
  listing.filterMap fun (name, node) => (Text.decode? name).map fun name => (name, node)

/-- The path of an entry of a directory. -/
def entryPath (directory name : String) : String :=
  if directory = "" ∨ directory.endsWith "/" then directory ++ name
  else directory ++ "/" ++ name

/-- What stands at every path. -/
structure Source where
  find : String → Except FileError Node

namespace Source

/-- The text of the file at a path. -/
def readText (source : Source) (path : String) : Except FileError String :=
  match source.find path with
  | .error e => .error e
  | .ok (.directory _) => .error .isDirectory
  | .ok (.unreadable cause) => .error cause
  | .ok (.file bytes) =>
    match Text.decode? bytes with
    | some text => .ok text
    | none => .error .notText

/-- The entries of the directory at a path. -/
def list (source : Source) (path : String) : Except FileError (List (String × Node)) :=
  match source.find path with
  | .error e => .error e
  | .ok (.directory entries) => .ok entries
  | .ok _ => .error .notDirectory

end Source

end PushNotice.Files
