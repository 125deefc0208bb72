import PushNotice.Decimal.Binary64

/-!
# PushNotice.Json.Basic

**JSON values.** An object is its members in order. Every operation that builds an object does so
through `insert`, which gives a known key a new value where the key stands and puts a new key at
the end, so the keys of an object stay distinct and keep the order of their first insertion.
-/

namespace PushNotice

/-- A JSON number: an integer between `-2 ^ 63` and `2 ^ 64 - 1`, or a floating-point number. -/
inductive Json.Number where
  | integer (value : Int)
  | float (value : Binary64)
deriving DecidableEq, Repr

/-- A JSON value. -/
inductive Json where
  | null
  | bool (value : Bool)
  | number (value : Json.Number)
  | string (value : String)
  | array (items : List Json)
  | object (members : List (String × Json))
deriving Inhabited, Repr

namespace Json

/-- The members of an object. -/
abbrev Members := List (String × Json)

/-! ### Objects -/

/-- The value of the member with the given key. -/
def Members.find? (key : String) : Members → Option Json
  | [] => none
  | (k, v) :: rest => if k = key then some v else Members.find? key rest

/-- The members with `key` bound to `value`: in its place if the key is there, else at the end. -/
def Members.insert (key : String) (value : Json) : Members → Members
  | [] => [(key, value)]
  | (k, v) :: rest =>
    if k = key then (k, value) :: rest else (k, v) :: Members.insert key value rest

/-- Members given by a list of bindings, of which later ones win. -/
def Members.ofBindings (bindings : List (String × Json)) : Members :=
  bindings.foldl (fun members (key, value) => Members.insert key value members) []

/-- After an insertion the key has the new value and every other key what it had. -/
theorem Members.find?_insert (key other : String) (value : Json) (members : Members) :
    Members.find? other (Members.insert key value members) =
      if other = key then some value else Members.find? other members := by
  induction members with
  | nil => simp [insert, find?, eq_comm]
  | cons member members ih =>
    obtain ⟨k, v⟩ := member
    rw [insert]
    split
    · next same =>
      subst same
      by_cases h : other = k
      · simp [find?, h]
      · simp [find?, h, Ne.symm h]
    · next distinct =>
      by_cases h : other = key
      · subst h
        simp [find?, ih, distinct]
      · simp [find?, ih, h]

theorem Members.find?_of_not_mem {key : String} {members : Members}
    (h : key ∉ members.map Prod.fst) : Members.find? key members = none := by
  induction members with
  | nil => rfl
  | cons member members ih =>
    simp only [List.map_cons, List.mem_cons, not_or] at h
    rw [Members.find?, if_neg (Ne.symm h.1), ih h.2]

/-- Of members behind others only those have a say that have a new key. -/
theorem Members.find?_append (key : String) (members members' : Members) :
    Members.find? key (members ++ members') =
      (Members.find? key members).or (Members.find? key members') := by
  induction members with
  | nil => rfl
  | cons member members ih =>
    rw [List.cons_append, Members.find?, Members.find?, ih]
    split <;> rfl

theorem Members.mem_of_find? {key : String} {value : Json} {members : Members}
    (h : Members.find? key members = some value) : (key, value) ∈ members := by
  induction members with
  | nil => simp [find?] at h
  | cons member members ih =>
    obtain ⟨k, v⟩ := member
    rw [find?] at h
    split at h
    · next same =>
      obtain rfl := Option.some.inj h
      exact same ▸ List.mem_cons_self
    · exact List.mem_cons_of_mem _ (ih h)

/-- A new key comes behind the others. -/
theorem Members.insert_of_not_mem {key : String} {members : Members}
    (h : key ∉ members.map Prod.fst) (value : Json) :
    Members.insert key value members = members ++ [(key, value)] := by
  induction members with
  | nil => rfl
  | cons member members ih =>
    simp only [List.map_cons, List.mem_cons, not_or] at h
    rw [Members.insert, if_neg (Ne.symm h.1), ih h.2, List.cons_append]

/-- Bindings without a key twice are the members that they give. -/
theorem Members.ofBindings_eq_self {bindings : Members} (h : (bindings.map Prod.fst).Nodup) :
    Members.ofBindings bindings = bindings := by
  have added : ∀ members : Members, ((members ++ bindings).map Prod.fst).Nodup →
      bindings.foldl (fun members (key, value) => Members.insert key value members) members =
        members ++ bindings := by
    induction bindings with
    | nil => simp
    | cons binding bindings ih =>
      intro members distinct
      obtain ⟨key, value⟩ := binding
      have new : key ∉ members.map Prod.fst := by
        rw [List.map_append, List.nodup_append] at distinct
        intro mem
        exact distinct.2.2 _ mem _ List.mem_cons_self rfl
      rw [List.append_cons] at distinct
      simp only [List.foldl_cons, Members.insert_of_not_mem new]
      rw [ih (List.nodup_cons.1 h).2 _ distinct, ← List.append_cons]
  exact added [] h

/-- The member of an object with the given key; nothing for other values. -/
def get? (key : String) : Json → Option Json
  | .object members => Members.find? key members
  | _ => none

/-- The text of a string value. -/
def text? : Json → Option String
  | .string s => some s
  | _ => none

/-- The items of an array. -/
def items? : Json → Option (List Json)
  | .array items => some items
  | _ => none

/-- The text of the member with the given key, if the member is there and is a string. -/
def textOf? (key : String) (j : Json) : Option String :=
  (j.get? key).bind text?

theorem textOf?_eq_some_iff {key text : String} {j : Json} :
    j.textOf? key = some text ↔ j.get? key = some (.string text) := by
  unfold textOf?
  constructor
  · intro h
    obtain ⟨value, found, isText⟩ := Option.bind_eq_some_iff.1 h
    cases value with
    | string s => exact Option.some.inj isText ▸ found
    | null | bool | number | array | object => simp [text?] at isText
  · intro h
    rw [h]
    rfl

/-- An object with string members. -/
def ofTexts (members : List (String × String)) : Json :=
  .object (members.map fun (key, value) => (key, .string value))

/-- A natural number as a JSON number. -/
def ofNat (n : Nat) : Json :=
  .number (.integer n)

/-! ### Emptiness -/

/-- Whether a number is zero, of either sign. -/
def Number.isZero : Number → Bool
  | .integer n => n == 0
  | .float x => x.isZero

/-- `null`, `false`, zero, and the empty string, array and object. -/
def isFalsy : Json → Bool
  | .null => true
  | .bool b => !b
  | .number n => n.isZero
  | .string s => s.isEmpty
  | .array items => items.isEmpty
  | .object members => members.isEmpty

/-! ### The shape of a value -/

mutual

/-- The value with every string that is not a key replaced by its image. -/
def mapStrings (f : String → String) : Json → Json
  | .string s => .string (f s)
  | .array items => .array (mapStringsItems f items)
  | .object members => .object (mapStringsMembers f members)
  | .null => .null
  | .bool b => .bool b
  | .number n => .number n

def mapStringsItems (f : String → String) : List Json → List Json
  | [] => []
  | item :: rest => item.mapStrings f :: mapStringsItems f rest

def mapStringsMembers (f : String → String) : List (String × Json) → List (String × Json)
  | [] => []
  | (key, value) :: rest => (key, value.mapStrings f) :: mapStringsMembers f rest

end

/-- A string of a value and where it stands. -/
structure Leaf where
  path : String
  text : String
deriving DecidableEq, Repr

mutual

/-- The strings of a value that are not keys, in document order. The value itself stands at
`path`; a member stands at `.key` and an item at `[index]` below what holds it. -/
def leaves (path : String) : Json → List Leaf
  | .string s => [⟨path, s⟩]
  | .array items => leavesItems path 0 items
  | .object members => leavesMembers path members
  | _ => []

def leavesItems (path : String) (index : Nat) : List Json → List Leaf
  | [] => []
  | item :: rest =>
    item.leaves (path ++ "[" ++ toString index ++ "]") ++ leavesItems path (index + 1) rest

def leavesMembers (path : String) : List (String × Json) → List Leaf
  | [] => []
  | (key, value) :: rest => value.leaves (path ++ "." ++ key) ++ leavesMembers path rest

end

mutual

/-- How deep arrays and objects are nested in a value. -/
def depth : Json → Nat
  | .array items => depthItems items + 1
  | .object members => depthMembers members + 1
  | _ => 0

def depthItems : List Json → Nat
  | [] => 0
  | item :: rest => max item.depth (depthItems rest)

def depthMembers : List (String × Json) → Nat
  | [] => 0
  | (_, value) :: rest => max value.depth (depthMembers rest)

end

theorem depthItems_le_iff {items : List Json} {n : Nat} :
    depthItems items ≤ n ↔ ∀ item ∈ items, item.depth ≤ n := by
  induction items with
  | nil => simp [depthItems]
  | cons item items ih => rw [depthItems, Nat.max_le, ih, List.forall_mem_cons]

theorem depthMembers_le_iff {members : Members} {n : Nat} :
    depthMembers members ≤ n ↔ ∀ member ∈ members, member.2.depth ≤ n := by
  induction members with
  | nil => simp [depthMembers]
  | cons member members ih => rw [depthMembers, Nat.max_le, ih, List.forall_mem_cons]

/-! ### Induction -/

/-- What holds of an array if it holds of its items, of an object if it holds of the values of its
members, and of all other values, holds of every value. -/
@[elab_as_elim]
theorem inductionOn {motive : Json → Prop} (null : motive .null) (bool : ∀ b, motive (.bool b))
    (number : ∀ n, motive (.number n)) (string : ∀ s, motive (.string s))
    (array : ∀ items, (∀ item ∈ items, motive item) → motive (.array items))
    (object : ∀ members, (∀ member ∈ members, motive member.2) → motive (.object members))
    (j : Json) : motive j :=
  @Json.rec motive (fun items => ∀ item ∈ items, motive item)
    (fun members => ∀ member ∈ members, motive member.2) (fun member => motive member.2)
    null bool number string array object
    (fun _ mem => absurd mem List.not_mem_nil)
    (fun _ _ first rest => List.forall_mem_cons.2 ⟨first, rest⟩)
    (fun _ mem => absurd mem List.not_mem_nil)
    (fun _ _ first rest => List.forall_mem_cons.2 ⟨first, rest⟩)
    (fun _ _ value => value) j

end Json

end PushNotice
