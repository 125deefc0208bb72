import PushNotice.Fault
import PushNotice.Template.JsonText
import PushNotice.Template.Registry
import PushNotice.Template.Yaml
import PushNotice.Text.Split

/-!
# PushNotice.Template.Directory

**Templates from a directory.** Every file whose extension names one of the two formats holds a
template, which is registered under the name of the file without the extension. The files are
taken in ascending order of their names, whatever the order in which the directory lists them,
up to the first one that holds no template.
-/

namespace PushNotice.Template

/-! ### Names of files -/

/-- The format of a file with a template. -/
inductive Format where
  | yaml
  | json
deriving DecidableEq, Repr

/-- The format that an extension names, in whatever case. No character beyond ASCII has a lower-case
form that is a letter of these extensions, so the lower case of ASCII decides. -/
def Format.ofExtension? (extension : String) : Option Format :=
  match extension.toLower with
  | "yaml" | "yml" => some .yaml
  | "json" => some .json
  | _ => none

/-- The name of a file before its last dot, and the extension after it. A dot at the start does
not count. -/
def splitExtension? (file : String) : Option (String × String) :=
  let parts := Text.splitAtMark '.' file.toList
  match parts.getLast?, parts.dropLast with
  | some extension, stem :: stems =>
    let stem := List.intercalate ['.'] (stem :: stems)
    if stem.isEmpty then none else some (String.ofList stem, String.ofList extension)
  | _, _ => none

/-- The name of the template that a file holds, and its format. -/
def nameAndFormat? (file : String) : Option (String × Format) := do
  let (stem, extension) ← splitExtension? file
  return (stem, ← Format.ofExtension? extension)

/-- The template that a text in a format describes. -/
def ofText : Format → String → Except Flaw Template
  | .yaml => ofYaml
  | .json => ofJsonText

/-! ### Files -/

/-- A file that is to hold a template. -/
structure File where
  /-- The name of the template. -/
  name : String
  format : Format
  path : String
  /-- The bytes of the file, or why it cannot be read. -/
  contents : Except Files.FileError (List UInt8)

/-- The file that an entry of a directory is, if it is to hold a template. -/
def File.ofEntry? (directory : String) : String × Files.Node → Option File
  | (file, node) => do
    let contents ← node.contents?
    let (name, format) ← nameAndFormat? file
    return ⟨name, format, Files.entryPath directory file, contents⟩

/-- The files of a directory that are to hold templates, in ascending order of their names. -/
def File.ofEntries (directory : String) (entries : List (String × Files.Node)) : List File :=
  (entries.mergeSort fun a b => a.1 ≤ b.1).filterMap (File.ofEntry? directory)

/-- The template in a file. -/
def File.read (file : File) : Except Fault Template :=
  match file.contents with
  | .error cause => .error (.templateUnreadable file.path cause)
  | .ok bytes =>
    match Text.decode? bytes with
    | none => .error (.templateUnreadable file.path .notText)
    | some text => (ofText file.format text).mapError (.templateMalformed file.path)

/-- The fault of a file is about that file. -/
theorem File.read_eq_error {file : File} {fault : Fault} (h : file.read = .error fault) :
    (∃ cause, fault = .templateUnreadable file.path cause) ∨
      ∃ flaw, fault = .templateMalformed file.path flaw := by
  unfold File.read at h
  split at h
  · exact .inl ⟨_, (Except.error.inj h).symm⟩
  · split at h
    · exact .inl ⟨_, (Except.error.inj h).symm⟩
    · next text _ =>
      cases described : ofText file.format text with
      | error flaw =>
        rw [described] at h
        exact .inr ⟨flaw, (Except.error.inj h).symm⟩
      | ok template =>
        rw [described] at h
        cases h

/-! ### Loading -/

/-- What loading templates leaves: the registry, which holds those before a fault, what happened,
and the number of templates or the fault. -/
structure Loaded where
  registry : Registry
  events : List Log.Event
  result : Except Fault Nat

/-- Registers the templates in files, of which `count` have been taken before. -/
def Registry.loadFiles (registry : Registry) (count : Nat) : List File → Loaded
  | [] => ⟨registry, [], .ok count⟩
  | file :: files =>
    match file.read with
    | .error fault => ⟨registry, [], .error fault⟩
    | .ok template =>
      let loaded := (registry.insert file.name template).loadFiles (count + 1) files
      { loaded with events := .templateRegistered file.name file.path :: loaded.events }

/-- Registers the templates in a directory. -/
def Registry.loadDirectory (registry : Registry) (files : Files.Source) (directory : String) :
    Loaded :=
  match files.list directory with
  | .error cause => ⟨registry, [], .error (.templatesUnreadable directory cause)⟩
  | .ok entries => registry.loadFiles 0 (File.ofEntries directory entries)

end PushNotice.Template
