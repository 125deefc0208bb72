import PushNotice.Files.Basic
import PushNotice.Text.Split

/-!
# PushNotice.Files.Tree

**A tree of files.** A path is a text whose parts are separated by slashes; it is followed from
the directory that the tree is.
-/

namespace PushNotice.Files

/-- The parts of a path between its slashes. -/
def pathParts (path : String) : List String :=
  (Text.splitAtMark '/' path.toList).map String.ofList

/-- The entry of a directory with a given name. -/
def child? (name : String) : List (String × Node) → Option Node
  | [] => none
  | (n, node) :: rest => if n = name then some node else child? name rest

/-- Follows the parts of a path. `above` holds the directories on the way from the root of the
tree, the nearest one first. An empty part and a dot stay in a directory, two dots leave it. -/
def follow (above : List Node) (node : Node) : List String → Except FileError Node
  | [] => .ok node
  | part :: parts =>
    match node with
    | .file _ | .unreadable _ => .error .notDirectory
    | .directory entries =>
      if part = "" ∨ part = "." then follow above node parts
      else if part = ".." then
        match above with
        | [] => .error .notFound
        | parent :: above => follow above parent parts
      else
        match child? part entries with
        | some next => follow (node :: above) next parts
        | none => .error .notFound

/-- A directory tree, in which paths are followed from its root. -/
structure Tree where
  root : Node

namespace Tree

/-- The node at the end of a path. There is none at the empty path and at one from outside. -/
def find (tree : Tree) (path : String) : Except FileError Node :=
  if path.contains '\x00' then .error .nulInPath
  else if path = "" ∨ path.startsWith "/" then .error .notFound
  else follow [] tree.root (pathParts path)

/-- A tree as the source of the files of a run. -/
def source (tree : Tree) : Source :=
  ⟨tree.find⟩

end Tree

/-! ### Construction -/

/-- The entries with the one of a given name replaced, or with a new one at the end. -/
def setEntry (name : String) (node : Node) : List (String × Node) → List (String × Node)
  | [] => [(name, node)]
  | (n, old) :: rest =>
    if n = name then (n, node) :: rest else (n, old) :: setEntry name node rest

/-- The node with another one put at the end of a path, whose directories are made as needed. -/
def put (node : Node) (added : Node) : List String → Node
  | [] => added
  | part :: parts =>
    let entries :=
      match node with
      | .directory entries => entries
      | .file _ | .unreadable _ => []
    if part = "" ∨ part = "." then put node added parts
    else
      .directory
        (setEntry part (put ((child? part entries).getD (.directory [])) added parts) entries)

/-- The tree of the given files and directories. -/
def Tree.ofEntries (entries : List (String × Node)) : Tree :=
  ⟨entries.foldl (fun root (path, node) => put root node (pathParts path)) (.directory [])⟩

end PushNotice.Files
