import PushNotice.Flaw
import PushNotice.Yaml.Core
import PushNotice.Yaml.Node

/-!
# PushNotice.Yaml.Content

**Reading values from a tree.** What is wanted of a node decides how it is read: any scalar is a
text, and a value of any type takes the type that its spelling has. References are followed, but
not more often than a limit that grows with the size of the text, and lists and maps may nest 128
deep, so that a small text cannot stand for a huge value.

The nodes are read in the order of the text, so the first thing that is wrong is what is found.
-/

namespace PushNotice.Yaml

/-! ### References -/

mutual

/-- The nodes with anchors, in the order of the text. -/
def Node.anchored : Node → List (Nat × Node)
  | .scalar properties text plain =>
    (properties.anchor.map (·, .scalar properties text plain)).toList
  | .list properties items =>
    (properties.anchor.map (·, .list properties items)).toList ++ anchoredItems items
  | .map properties entries =>
    (properties.anchor.map (·, .map properties entries)).toList ++ anchoredEntries entries
  | .alias _ | .cut => []

def anchoredItems : List Node → List (Nat × Node)
  | [] => []
  | item :: rest => item.anchored ++ anchoredItems rest

def anchoredEntries : List (Node × Node) → List (Nat × Node)
  | [] => []
  | (key, value) :: rest => key.anchored ++ value.anchored ++ anchoredEntries rest

end

mutual

/-- The size of a tree: one for a scalar or a reference, and two for a list or map besides what is
in it. -/
def Node.size : Node → Nat
  | .scalar .. | .alias _ => 1
  | .list _ items => 2 + sizeItems items
  | .map _ entries => 2 + sizeEntries entries
  | .cut => 0

def sizeItems : List Node → Nat
  | [] => 0
  | item :: rest => item.size + sizeItems rest

def sizeEntries : List (Node × Node) → Nat
  | [] => 0
  | (key, value) :: rest => key.size + value.size + sizeEntries rest

end

mutual

/-- Whether a tree is whole. -/
def Node.whole : Node → Bool
  | .scalar .. | .alias _ => true
  | .list _ items => wholeItems items
  | .map _ entries => wholeEntries entries
  | .cut => false

def wholeItems : List Node → Bool
  | [] => true
  | item :: rest => item.whole && wholeItems rest

def wholeEntries : List (Node × Node) → Bool
  | [] => true
  | (key, value) :: rest => key.whole && value.whole && wholeEntries rest

end

/-- The nodes that references stand for. -/
abbrev Anchors := List (Nat × Node)

/-- How often references may be followed, for each unit of the size of a text. -/
def followLimit : Nat := 100

/-- How deep lists and maps may nest. -/
def depthLimit : Nat := 128

/-! ### Reading -/

/-- Reading from a tree; the state is how often references may still be followed. -/
abbrev Reading := StateT Nat (Except Flaw)

/-- The text is not of the form that is wanted. -/
def malformed {α : Type} : Reading α :=
  throw .malformed

/-- The node itself, or the one that it refers to. -/
def follow (anchors : Anchors) : Node → Reading Node
  | .alias n => do
    let left ← get
    match left, (anchors.filter (·.1 == n)).getLast? with
    | left + 1, some (_, target) => do
      set left
      return target
    | _, _ => malformed
  | .cut => malformed
  | node => return node

/-- The text of a scalar. -/
def readText (anchors : Anchors) (node : Node) : Reading String := do
  match ← follow anchors node with
  | .scalar _ text _ => return String.ofList text
  | _ => malformed

/-- Whether a scalar is null where a text may be missing. -/
def readNull (properties : Properties) (text : List Char) (plain : Bool) : Reading Bool :=
  if !plain then return false
  else if properties.tag = some (coreTag "null") then
    if isNullWord text then return true else malformed
  else if properties.tag.isSome then return false
  else return text.isEmpty || isNullWord text

/-- The text of a scalar that may be missing. -/
def readOptionalText (anchors : Anchors) (node : Node) : Reading (Option String) := do
  match ← follow anchors node with
  | .scalar properties text plain =>
    if ← readNull properties text plain then return none else return some (String.ofList text)
  | _ => malformed

/-- The value of a scalar. -/
def readScalar (properties : Properties) (text : List Char) (plain : Bool) : Reading Json :=
  let value := match properties.tag with
    | some tag => taggedValue? tag text
    | none => if plain then plainValue? text else some (.string (String.ofList text))
  match value with
  | some value => return value
  | none => malformed

/-- Whether a list or map has a type of the text's own, for which there is no value. -/
def hasOwnType (properties : Properties) : Bool :=
  properties.tag.any fun tag => tag.head? = some '!'

/-- A value of any type; lists and maps in it may nest `depth` deep. -/
def readValue (anchors : Anchors) (depth : Nat) (node : Node) : Reading Json := do
  match depth, ← follow anchors node with
  | _, .scalar properties text plain => readScalar properties text plain
  | depth + 1, .list properties items =>
    if hasOwnType properties then malformed
    else return .array (← items.mapM (readValue anchors depth))
  | depth + 1, .map properties entries =>
    if hasOwnType properties then malformed
    else do
      let members ← entries.mapM fun (key, value) => do
        return (← readText anchors key, ← readValue anchors depth value)
      return .object (Json.Members.ofBindings members)
  | _, _ => malformed

/-- However deep values may nest, a scalar has its value. -/
theorem readValue_scalar (anchors : Anchors) (depth : Nat) (properties : Properties)
    (text : List Char) (plain : Bool) :
    readValue anchors depth (.scalar properties text plain) =
      readScalar properties text plain := by
  delta readValue
  cases depth <;> rfl

/-- A list of values, which may be missing. -/
def readValues (anchors : Anchors) (depth : Nat) (node : Node) : Reading (List Json) := do
  match depth, ← follow anchors node with
  | depth + 1, .list _ items => items.mapM (readValue anchors depth)
  | _, .scalar _ [] true => return []
  | _, _ => malformed

/-! ### Records -/

/-- How the fields of a record are read: the reader of a field puts its value into the record. A
field without a reader is left out. -/
abbrev FieldReaders (α : Type) := Anchors → String → Option (Node → α → Reading α)

/-- Reads the fields of a record from the entries of a map. No field that has a reader may stand
there twice. -/
def readFields {α : Type} (anchors : Anchors) (readers : FieldReaders α) (seen : List String)
    (record : α) : List (Node × Node) → Reading α
  | [] => return record
  | (key, value) :: rest => do
    let name ← readText anchors key
    match readers anchors name with
    | none =>
      if value.whole then readFields anchors readers seen record rest else malformed
    | some reader =>
      if seen.contains name then malformed
      else do
        let record ← reader value record
        readFields anchors readers (name :: seen) record rest

/-- The entries of the map that a text holds; it has none if it holds nothing. -/
def rootEntries? : Option Node → Option (List (Node × Node))
  | none => some []
  | some (.scalar _ [] true) => some []
  | some (.map _ entries) => some entries
  | some _ => none

/-- How deep lists and maps may nest in the fields of a record. -/
def fieldDepth : Nat := depthLimit - 1

/-- Reads a record from a text; `finish` makes the result from its fields. -/
def readRecord {α β : Type} (readers : FieldReaders α) (initial : α)
    (finish : α → Except Flaw β) (text : String) : Except Flaw β := do
  let document := Document.ofText text
  match rootEntries? document.root with
  | none => throw .malformed
  | some entries =>
    let anchors := (document.root.map Node.anchored).getD []
    let limit := followLimit * (document.root.map Node.size).getD 0
    let (record, _) ← (readFields anchors readers [] initial entries).run limit
    let result ← finish record
    if document.complete then return result else throw .malformed

end PushNotice.Yaml
