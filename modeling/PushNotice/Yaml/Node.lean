import PushNotice.Yaml.Scan

/-!
# PushNotice.Yaml.Node

**The tree of a YAML text.** A node is a scalar, a list, a map or a reference to another node.
A text that is at fault somewhere still has a tree, which breaks off there: what is read from the
part before the fault may be refused for a reason of its own.
-/

namespace PushNotice.Yaml

/-- The full name of a type. -/
abbrev Tag := List Char

/-- What may be said of a node before it: its type, and a number by which it is referred to. -/
structure Properties where
  tag : Option Tag
  anchor : Option Nat
deriving DecidableEq, Repr

inductive Node where
  /-- A scalar, and whether it is written without quotes. -/
  | scalar (properties : Properties) (text : List Char) (plain : Bool)
  | list (properties : Properties) (items : List Node)
  | map (properties : Properties) (entries : List (Node × Node))
  /-- The last node with an anchor. -/
  | alias (anchor : Nat)
  /-- The place where the text breaks off. -/
  | cut

/-- A node where a text has none. -/
def Node.empty : Node := .scalar ⟨none, none⟩ [] true

/-! ### Properties of nodes -/

/-- The handles that are shorthands, with their expansions. -/
abbrev Handles := List (List Char × List Char)

/-- The handles of every text. -/
def Handles.initial : Handles :=
  [(['!'], ['!']), (['!', '!'], "tag:yaml.org,2002:".toList)]

/-- The full name of a type; nothing if its handle is not declared. -/
def TagName.expand? (handles : Handles) (name : TagName) : Option Tag :=
  if name.handle.isEmpty then some name.suffix
  else (handles.find? (·.1 == name.handle)).map fun (_, expansion) => expansion ++ name.suffix

/-- A node of which only its properties are there. -/
def bareNode (properties : Properties) : Node := .scalar properties [] true

/-- What is said of a node, with the type not yet expanded, and the tokens after that. -/
structure RawProperties where
  tag : Option TagName
  anchor : Option Nat
  rest : List Token

/-- What is said of a node at the start of tokens, in either order. -/
def rawProperties : List Token → RawProperties
  | .anchor n :: .tag name :: ts => ⟨some name, some n, ts⟩
  | .tag name :: .anchor n :: ts => ⟨some name, some n, ts⟩
  | .anchor n :: ts => ⟨none, some n, ts⟩
  | .tag name :: ts => ⟨some name, none, ts⟩
  | ts => ⟨none, none, ts⟩

/-- The properties of a node and the tokens after them. -/
def properties? (handles : Handles) (ts : List Token) : Option (Properties × List Token) :=
  let raw := rawProperties ts
  match raw.tag with
  | none => some (⟨none, raw.anchor⟩, raw.rest)
  | some name => (name.expand? handles).map fun tag => (⟨some tag, raw.anchor⟩, raw.rest)

/-- The tag `!` says nothing of a scalar but that it has the type it would have anyway. -/
def scalarNode (properties : Properties) (text : List Char) (plain : Bool) : Node :=
  let tag := properties.tag.filter (· != ['!'])
  .scalar { properties with tag } text plain

/-! ### Trees -/

/-- A part of a tree, and the tokens after it unless the text breaks off in it. -/
structure Parsed (α : Type) where
  value : α
  rest : Option (List Token)

/-- A part that is complete. -/
def Parsed.ok {α : Type} (value : α) (rest : List Token) : Parsed α := ⟨value, some rest⟩

/-- Goes on after a part; where that breaks off, so does the whole. -/
def Parsed.andThen {α β γ : Type} (first : Parsed α) (next : List Token → Parsed β)
    (stop : α → γ) (join : α → β → γ) : Parsed γ :=
  match first.rest with
  | none => ⟨stop first.value, none⟩
  | some ts =>
    let second := next ts
    ⟨join first.value second.value, second.rest⟩

/-- A node at which the text breaks off. -/
def cutNode : Parsed Node := ⟨.cut, none⟩

/-- Items at which the text breaks off. -/
def cutItems : Parsed (List Node) := ⟨[.cut], none⟩

/-- Entries at which the text breaks off. -/
def cutEntries : Parsed (List (Node × Node)) := ⟨[(.cut, .cut)], none⟩

/-- A node of which only its properties are there, if there are any. -/
def bareOrCut (properties : Properties) (rest : List Token) : Parsed Node :=
  if properties = ⟨none, none⟩ then cutNode else .ok (bareNode properties) rest

/-- A node that is not written, before further tokens. -/
def absentNode (rest : List Token) : Parsed Node :=
  if rest.isEmpty then cutNode else .ok .empty rest

/-- The tokens of an item in brackets. An item that is not the first one follows a comma; the
closing bracket need not. -/
def afterComma? (first : Bool) (close : Token) : List Token → Option (List Token)
  | [] => none
  | t :: ts =>
    if first || t = close then some (t :: ts) else if t = .comma then some ts else none

/-- Where a node stands: whether it may be a list or map in lines of its own, and whether the
entries of such a list may stand at the column of the map around it. -/
inductive Surroundings where
  | flow
  | block
  | blockValue
deriving DecidableEq, Repr

/-- Whether no node can begin with a token in a map in lines of its own. -/
def endsBlockEntry : Token → Bool
  | .key | .value | .blockEnd => true
  | _ => false

/-- Whether no node can begin with a token in a map in brackets. -/
def endsFlowEntry : Token → Bool
  | .value | .comma | .flowMapEnd => true
  | _ => false

/-- Whether no value can begin with a token in a map in brackets. -/
def endsFlowValue : Token → Bool
  | .comma | .flowMapEnd => true
  | _ => false

/-- Whether no value can begin with a token in an entry that is a pair in a list in brackets. -/
def endsPairValue : Token → Bool
  | .comma | .flowListEnd => true
  | _ => false

mutual

/-- The node at the start of tokens. Every call is for fewer tokens or is one of a fixed number
in a row, so `fuel` in proportion to the tokens is enough. -/
def node (handles : Handles) (fuel : Nat) (where_ : Surroundings) (ts : List Token) :
    Parsed Node :=
  match fuel with
  | 0 => cutNode
  | fuel + 1 =>
    match ts with
    | .alias (some n) :: ts => .ok (.alias n) ts
    | .alias none :: _ => cutNode
    | ts =>
      match properties? handles ts with
      | none => cutNode
      | some (properties, rest) =>
        match rest with
        | [] => cutNode
        | .scalar text plain :: rest => .ok (scalarNode properties text plain) rest
        | .flowListStart :: rest =>
          let items := flowItems handles fuel true rest
          ⟨.list properties items.value, items.rest⟩
        | .flowMapStart :: rest =>
          let entries := flowEntries handles fuel true rest
          ⟨.map properties entries.value, entries.rest⟩
        | .entry :: _ =>
          if where_ = .blockValue then
            let items := bareItems handles fuel rest
            ⟨.list properties items.value, items.rest⟩
          else bareOrCut properties rest
        | .blockListStart :: rest' =>
          if where_ = .flow then bareOrCut properties rest
          else
            let items := blockItems handles fuel rest'
            ⟨.list properties items.value, items.rest⟩
        | .blockMapStart :: rest' =>
          if where_ = .flow then bareOrCut properties rest
          else
            let entries := blockEntries handles fuel rest'
            ⟨.map properties entries.value, entries.rest⟩
        | rest => bareOrCut properties rest

/-- The items of a list in lines of its own. -/
def blockItems (handles : Handles) (fuel : Nat) (ts : List Token) : Parsed (List Node) :=
  match fuel with
  | 0 => cutItems
  | fuel + 1 =>
    match ts with
    | .blockEnd :: ts => .ok [] ts
    | .entry :: t :: ts =>
      let item : Parsed Node :=
        if t = .entry ∨ t = .blockEnd then .ok .empty (t :: ts)
        else node handles fuel .block (t :: ts)
      item.andThen (blockItems handles fuel) ([·]) (· :: ·)
    | _ => cutItems

/-- The items of a list at the column of the map around it. -/
def bareItems (handles : Handles) (fuel : Nat) (ts : List Token) : Parsed (List Node) :=
  match fuel with
  | 0 => cutItems
  | fuel + 1 =>
    match ts with
    | [] | [.entry] => cutItems
    | .entry :: t :: ts =>
      let item : Parsed Node :=
        if t = .entry ∨ endsBlockEntry t then .ok .empty (t :: ts)
        else node handles fuel .block (t :: ts)
      item.andThen (bareItems handles fuel) ([·]) (· :: ·)
    | ts => .ok [] ts

/-- The value of an entry of a map in lines of its own. -/
def blockValue (handles : Handles) (fuel : Nat) (ts : List Token) : Parsed Node :=
  match fuel with
  | 0 => cutNode
  | fuel + 1 =>
    match ts with
    | [] | [.value] => cutNode
    | .value :: t :: ts =>
      if endsBlockEntry t then .ok .empty (t :: ts)
      else node handles fuel .blockValue (t :: ts)
    | ts => .ok .empty ts

/-- The entries of a map in lines of its own. -/
def blockEntries (handles : Handles) (fuel : Nat) (ts : List Token) :
    Parsed (List (Node × Node)) :=
  match fuel with
  | 0 => cutEntries
  | fuel + 1 =>
    match ts with
    | .blockEnd :: ts => .ok [] ts
    | .key :: t :: ts =>
      let key : Parsed Node :=
        if endsBlockEntry t then .ok .empty (t :: ts)
        else node handles fuel .blockValue (t :: ts)
      let entry := key.andThen (blockValue handles fuel) ((·, .cut)) ((·, ·))
      entry.andThen (blockEntries handles fuel) ([·]) (· :: ·)
    | _ => cutEntries

/-- The items of a list in brackets. -/
def flowItems (handles : Handles) (fuel : Nat) (first : Bool) (ts : List Token) :
    Parsed (List Node) :=
  match fuel with
  | 0 => cutItems
  | fuel + 1 =>
    match afterComma? first .flowListEnd ts with
    | none => cutItems
    | some [] => cutItems
    | some (.flowListEnd :: ts) => .ok [] ts
    | some (.key :: ts) =>
      let entry := flowPair handles fuel ts
      let pair : Parsed Node := ⟨.map ⟨none, none⟩ entry.value, entry.rest⟩
      pair.andThen (flowItems handles fuel false) ([·]) (· :: ·)
    | some ts =>
      (node handles fuel .flow ts).andThen (flowItems handles fuel false) ([·]) (· :: ·)

/-- The one entry of a map that is an item of a list in brackets. -/
def flowPair (handles : Handles) (fuel : Nat) (ts : List Token) : Parsed (List (Node × Node)) :=
  match fuel with
  | 0 => cutEntries
  | fuel + 1 =>
    match ts with
    | [] => cutEntries
    | t :: ts =>
      let key : Parsed Node :=
        if t = .value ∨ endsPairValue t then .ok .empty ts
        else node handles fuel .flow (t :: ts)
      let value (ts : List Token) : Parsed Node :=
        match ts with
        | [] | [.value] => cutNode
        | .value :: t :: ts =>
          if endsPairValue t then .ok .empty (t :: ts) else node handles fuel .flow (t :: ts)
        | ts => .ok .empty ts
      let entry := key.andThen value ((·, .cut)) ((·, ·))
      ⟨[entry.value], entry.rest⟩

/-- The entries of a map in brackets. -/
def flowEntries (handles : Handles) (fuel : Nat) (first : Bool) (ts : List Token) :
    Parsed (List (Node × Node)) :=
  match fuel with
  | 0 => cutEntries
  | fuel + 1 =>
    match afterComma? first .flowMapEnd ts with
    | none => cutEntries
    | some [] | some [.key] => cutEntries
    | some (.flowMapEnd :: ts) => .ok [] ts
    | some (.key :: t :: ts) =>
      let key : Parsed Node :=
        if endsFlowEntry t then .ok .empty (t :: ts) else node handles fuel .flow (t :: ts)
      let entry := key.andThen (flowValue handles fuel) ((·, .cut)) ((·, ·))
      entry.andThen (flowEntries handles fuel false) ([·]) (· :: ·)
    | some ts =>
      let key := node handles fuel .flow ts
      let entry := key.andThen absentNode ((·, .cut)) ((·, ·))
      entry.andThen (flowEntries handles fuel false) ([·]) (· :: ·)

/-- The value of an entry of a map in brackets. -/
def flowValue (handles : Handles) (fuel : Nat) (ts : List Token) : Parsed Node :=
  match fuel with
  | 0 => cutNode
  | fuel + 1 =>
    match ts with
    | [] | [.value] => cutNode
    | .value :: t :: ts =>
      if endsFlowValue t then .ok .empty (t :: ts) else node handles fuel .flow (t :: ts)
    | ts => .ok .empty ts

end

/-! ### Documents -/

/-- What a text holds: a tree, or nothing at all; and whether the text ends after that. -/
structure Document where
  root : Option Node
  complete : Bool

/-- A text that breaks off before its tree. -/
def Document.cut : Document := ⟨some .cut, false⟩

/-- What is said before a document: whether a version has been given, and the handles. -/
structure Prologue where
  versioned : Bool
  handles : Handles

/-- Reads directives up to the start of the document. -/
def prologue? (p : Prologue) : List Token → Option (Handles × List Token)
  | .documentStart :: ts => some (p.handles ++ Handles.initial, ts)
  | .version major minor :: ts =>
    if p.versioned || major ≠ 1 || (minor ≠ 1 && minor ≠ 2) then none
    else prologue? { p with versioned := true } ts
  | .handle name expansion :: ts =>
    if p.handles.any (·.1 == name) then none
    else prologue? { p with handles := p.handles ++ [(name, expansion)] } ts
  | _ => none

/-- Whether no node can begin with a token after the start of a document. -/
def endsDocument : Token → Bool
  | .version .. | .handle .. | .documentStart | .documentEnd | .textEnd => true
  | _ => false

/-- Whether a text ends with no more than marks of the end of a document. -/
def endsText : List Token → Bool
  | .documentEnd :: ts => endsText ts
  | .textEnd :: _ => true
  | _ => false

/-- The tree at the start of tokens. -/
def rootNode (handles : Handles) (ts : List Token) : Parsed Node :=
  node handles (4 * (ts.length + 1)) .block ts

/-- The document with a tree. -/
def Document.ofRoot (root : Parsed Node) : Document :=
  ⟨some root.value, (root.rest.map endsText).getD false⟩

/-- The document of a text. -/
def Document.ofTokens (ts : List Token) : Document :=
  match ts with
  | .textEnd :: _ => ⟨none, true⟩
  | .version .. :: _ | .handle .. :: _ | .documentStart :: _ =>
    match prologue? ⟨false, []⟩ ts with
    | none => .cut
    | some (handles, t :: rest) =>
      if endsDocument t then .ofRoot (.ok .empty (t :: rest))
      else .ofRoot (rootNode handles (t :: rest))
    | some (_, []) => .cut
  | ts => .ofRoot (rootNode Handles.initial ts)

/-- The document of a text. A mark of the byte order may stand before it. -/
def Document.ofText (text : String) : Document :=
  let cs := match text.toList with
    | [] => []
    | c :: cs => if c == byteOrderMark then cs else c :: cs
  if cs.all isAllowed then .ofTokens (Token.ofText cs) else .cut

end PushNotice.Yaml
