import Mathlib.Data.List.Basic
import PushNotice.Json.Basic

/-!
# PushNotice.Proofs.Json.Shape

**The shape of a value, and the places in it.** Two values have one shape if they differ in strings
alone, where keys are no strings (`SameShape`). A value in another one has an address there, the
numbers of the items and members on the way to it, and a place, which is the address in words
(`StandsAt`). Addresses say what the words cannot: a key may hold a dot or a bracket, so that two
strings may have the same place, but not the same address, and document order is the order of
addresses.

`leavesAt` lists the strings of a value with their addresses. It lists all of them
(`mem_leavesAt_iff`) in document order (`pairwise_leavesAt`), as `leaves` does without the addresses
(`map_snd_leavesAt`).
-/

namespace PushNotice.Json

/-! ### Shape -/

/-- The values are the same but for strings that are not keys, and these are related. -/
inductive SameShape (related : String → String → Prop) : Json → Json → Prop where
  | null : SameShape related .null .null
  | bool (b : Bool) : SameShape related (.bool b) (.bool b)
  | number (n : Number) : SameShape related (.number n) (.number n)
  | string {s s' : String} (h : related s s') : SameShape related (.string s) (.string s')
  /-- There are as many items, and items with one number have one shape. -/
  | array {items items' : List Json} (length : items.length = items'.length)
      (each : ∀ (i : Nat) (item item' : Json), items[i]? = some item → items'[i]? = some item' →
        SameShape related item item') :
      SameShape related (.array items) (.array items')
  /-- The keys are the same in the same order, and what they have has one shape. -/
  | object {members members' : Members} (keys : members.map Prod.fst = members'.map Prod.fst)
      (each : ∀ (i : Nat) (member member' : String × Json), members[i]? = some member →
        members'[i]? = some member' → SameShape related member.2 member'.2) :
      SameShape related (.object members) (.object members')

variable {f : String → String}

theorem mapStringsItems_eq_map (items : List Json) :
    mapStringsItems f items = items.map (mapStrings f) := by
  induction items with
  | nil => rfl
  | cons item rest ih => rw [mapStringsItems, ih, List.map_cons]

theorem mapStringsMembers_eq_map (members : Members) :
    mapStringsMembers f members = members.map fun member => (member.1, member.2.mapStrings f) := by
  induction members with
  | nil => rfl
  | cons member rest ih => rw [mapStringsMembers, ih, List.map_cons]

/-- **Replacing strings keeps the shape.** -/
theorem sameShape_mapStrings {related : String → String → Prop} (h : ∀ s, related s (f s))
    (j : Json) : SameShape related j (j.mapStrings f) := by
  induction j using Json.inductionOn with
  | null => exact .null
  | bool b => exact .bool b
  | number n => exact .number n
  | string s => exact .string (h s)
  | array items ih =>
    rw [mapStrings, mapStringsItems_eq_map]
    refine .array (List.length_map _).symm fun i item item' found found' => ?_
    obtain rfl : item.mapStrings f = item' := by simpa [found] using found'
    exact ih item (List.mem_of_getElem? found)
  | object members ih =>
    rw [mapStrings, mapStringsMembers_eq_map]
    refine .object (by simp) fun i member member' found found' => ?_
    obtain rfl : (member.1, member.2.mapStrings f) = member' := by simpa [found] using found'
    exact ih member (List.mem_of_getElem? found)

theorem isEmpty_eq_of_length_eq {α β : Type} {xs : List α} {ys : List β}
    (h : xs.length = ys.length) : xs.isEmpty = ys.isEmpty := by
  rw [Bool.eq_iff_iff, List.isEmpty_iff_length_eq_zero, List.isEmpty_iff_length_eq_zero, h]

/-- **Whether a value is empty shows in its shape**, unless it is a string. -/
theorem SameShape.isFalsy_eq {related : String → String → Prop} {j j' : Json}
    (h : SameShape related j j') (notString : ∀ s, j ≠ .string s) : j'.isFalsy = j.isFalsy := by
  cases h with
  | null | bool | number => rfl
  | @string s => exact absurd rfl (notString s)
  | array length => exact (isEmpty_eq_of_length_eq length).symm
  | object keys =>
    have length := congrArg List.length keys
    rw [List.length_map, List.length_map] at length
    exact (isEmpty_eq_of_length_eq length).symm

/-- Replacing every string by itself changes nothing. -/
theorem mapStrings_id (j : Json) : j.mapStrings id = j := by
  induction j using Json.inductionOn with
  | null | bool | number | string => rfl
  | array items ih =>
    rw [mapStrings, mapStringsItems_eq_map, List.map_congr_left ih, List.map_id']
  | object members ih =>
    have same : ∀ member ∈ members, (member.1, member.2.mapStrings id) = member :=
      fun member mem => by rw [ih member mem]
    rw [mapStrings, mapStringsMembers_eq_map, List.map_congr_left same, List.map_id']

mutual

/-- The strings of a value with its strings replaced are the replaced ones, in their places. -/
theorem leaves_mapStrings : ∀ (path : String) (j : Json),
    (j.mapStrings f).leaves path = (j.leaves path).map fun leaf => ⟨leaf.path, f leaf.text⟩
  | _, .string _ => rfl
  | path, .array items => leavesItems_mapStrings path 0 items
  | path, .object members => leavesMembers_mapStrings path members
  | _, .null => rfl
  | _, .bool _ => rfl
  | _, .number _ => rfl

theorem leavesItems_mapStrings : ∀ (path : String) (index : Nat) (items : List Json),
    leavesItems path index (mapStringsItems f items) =
      (leavesItems path index items).map fun leaf => ⟨leaf.path, f leaf.text⟩
  | _, _, [] => rfl
  | path, index, item :: rest => by
      rw [mapStringsItems, leavesItems, leavesItems, List.map_append, leaves_mapStrings _ item,
        leavesItems_mapStrings path (index + 1) rest]

theorem leavesMembers_mapStrings : ∀ (path : String) (members : Members),
    leavesMembers path (mapStringsMembers f members) =
      (leavesMembers path members).map fun leaf => ⟨leaf.path, f leaf.text⟩
  | _, [] => rfl
  | path, (key, value) :: rest => by
      rw [mapStringsMembers, leavesMembers, leavesMembers, List.map_append,
        leaves_mapStrings _ value, leavesMembers_mapStrings path rest]

end

/-! ### Places -/

/-- The way to a value in another one: the numbers of items and members, from the outside in. -/
abbrev Address := List Nat

/-- The value `part` has the address and the place in `whole`, which stands at `path` itself. -/
inductive StandsAt (part : Json) : (path : String) → (whole : Json) → Address → (place : String) →
    Prop where
  | self (path : String) : StandsAt part path part [] path
  /-- An item stands at its number in brackets. -/
  | item {path place : String} {items : List Json} {i : Nat} {item : Json} {address : Address}
      (found : items[i]? = some item)
      (inside : StandsAt part (path ++ "[" ++ toString i ++ "]") item address place) :
      StandsAt part path (.array items) (i :: address) place
  /-- A member stands at its key behind a dot. -/
  | member {path place : String} {members : Members} {i : Nat} {key : String} {value : Json}
      {address : Address} (found : members[i]? = some (key, value))
      (inside : StandsAt part (path ++ "." ++ key) value address place) :
      StandsAt part path (.object members) (i :: address) place

/-- Something at an address, seen from further out. -/
def under {α : Type} (i : Nat) : Address × α → Address × α :=
  Prod.map (i :: ·) id

mutual

/-- The strings of a value that are not keys, in document order, with their addresses. -/
def leavesAt (path : String) : Json → List (Address × Leaf)
  | .string s => [([], ⟨path, s⟩)]
  | .array items => leavesAtItems path 0 items
  | .object members => leavesAtMembers path 0 members
  | _ => []

def leavesAtItems (path : String) (index : Nat) : List Json → List (Address × Leaf)
  | [] => []
  | item :: rest =>
    (item.leavesAt (path ++ "[" ++ toString index ++ "]")).map (under index) ++
      leavesAtItems path (index + 1) rest

def leavesAtMembers (path : String) (index : Nat) : List (String × Json) → List (Address × Leaf)
  | [] => []
  | (key, value) :: rest =>
    (value.leavesAt (path ++ "." ++ key)).map (under index) ++
      leavesAtMembers path (index + 1) rest

end

/-! ### Lists of parts -/

section Parts

variable {α β : Type}

/-- What there is in each part, one part after the other. -/
def inParts (inPart : Nat → β → List (Address × α)) : Nat → List β → List (Address × α)
  | _, [] => []
  | index, part :: rest =>
    (inPart index part).map (under index) ++ inParts inPart (index + 1) rest

variable {inPart : Nat → β → List (Address × α)} {index : Nat} {parts : List β}

theorem mem_inParts_iff {address : Address} {x : α} :
    (address, x) ∈ inParts inPart index parts ↔
      ∃ i part rest, parts[i]? = some part ∧ address = (index + i) :: rest ∧
        (rest, x) ∈ inPart (index + i) part := by
  induction parts generalizing index with
  | nil => simp [inParts]
  | cons first parts ih =>
    rw [inParts, List.mem_append, ih]
    -- The parts behind the first one are numbered from `index + 1` on.
    constructor
    · rintro (mem | ⟨i, part, rest, found, rfl, mem⟩)
      · obtain ⟨⟨rest, y⟩, inside, same⟩ := List.mem_map.1 mem
        obtain ⟨rfl, rfl⟩ := Prod.mk.inj same
        exact ⟨0, first, rest, rfl, rfl, inside⟩
      · have shift : index + 1 + i = index + (i + 1) := by omega
        exact ⟨i + 1, part, rest, found, by rw [shift], shift ▸ mem⟩
    · rintro ⟨i, part, rest, found, rfl, mem⟩
      cases i with
      | zero =>
        obtain rfl : first = part := Option.some.inj found
        exact .inl (List.mem_map.2 ⟨(rest, x), mem, rfl⟩)
      | succ i =>
        have shift : index + (i + 1) = index + 1 + i := by omega
        exact .inr ⟨i, part, rest, found, by rw [shift], shift ▸ mem⟩

/-- What comes in the order of addresses in each part comes in that order in all of them. -/
theorem pairwise_inParts
    (h : ∀ i part, parts[i]? = some part →
      (inPart (index + i) part).Pairwise fun x y => x.1 < y.1) :
    (inParts inPart index parts).Pairwise fun x y => x.1 < y.1 := by
  induction parts generalizing index with
  | nil => exact .nil
  | cons first parts ih =>
    refine List.pairwise_append.2 ⟨?_, ih fun i part found => ?_, ?_⟩
    · exact List.pairwise_map.2 ((h 0 first rfl).imp fun earlier =>
        List.cons_lt_cons_iff.2 (.inr ⟨rfl, earlier⟩))
    · have shift : index + (i + 1) = index + 1 + i := by omega
      exact shift ▸ h (i + 1) part found
    · -- The first numbers of the addresses decide.
      rintro x mem ⟨address, y⟩ mem'
      obtain ⟨x, -, rfl⟩ := List.mem_map.1 mem
      obtain ⟨i, -, rest, -, rfl, -⟩ := mem_inParts_iff.1 mem'
      exact List.cons_lt_cons_iff.2 (.inl (by omega))

end Parts

theorem leavesAtItems_eq (path : String) (index : Nat) (items : List Json) :
    leavesAtItems path index items =
      inParts (fun i item => item.leavesAt (path ++ "[" ++ toString i ++ "]")) index items := by
  induction items generalizing index with
  | nil => rfl
  | cons item rest ih => rw [leavesAtItems, inParts, ih]

theorem leavesAtMembers_eq (path : String) (index : Nat) (members : Members) :
    leavesAtMembers path index members =
      inParts (fun _ member => member.2.leavesAt (path ++ "." ++ member.1)) index members := by
  induction members generalizing index with
  | nil => rfl
  | cons member rest ih => rw [leavesAtMembers, inParts, ih]

/-! ### Strings with their addresses -/

theorem map_snd_leavesAtItems {items : List Json}
    (h : ∀ item ∈ items, ∀ path, (item.leavesAt path).map Prod.snd = item.leaves path)
    (path : String) (index : Nat) :
    (leavesAtItems path index items).map Prod.snd = leavesItems path index items := by
  induction items generalizing index with
  | nil => rfl
  | cons item rest ih =>
    obtain ⟨first, others⟩ := List.forall_mem_cons.1 h
    rw [leavesAtItems, leavesItems, List.map_append, List.map_map, ih others, ← first]
    rfl

theorem map_snd_leavesAtMembers {members : Members}
    (h : ∀ member ∈ members, ∀ path,
      (member.2.leavesAt path).map Prod.snd = member.2.leaves path)
    (path : String) (index : Nat) :
    (leavesAtMembers path index members).map Prod.snd = leavesMembers path members := by
  induction members generalizing index with
  | nil => rfl
  | cons member rest ih =>
    obtain ⟨first, others⟩ := List.forall_mem_cons.1 h
    rw [leavesAtMembers, leavesMembers, List.map_append, List.map_map, ih others, ← first]
    rfl

theorem map_snd_leavesAt (j : Json) :
    ∀ path, (j.leavesAt path).map Prod.snd = j.leaves path := by
  induction j using Json.inductionOn with
  | null | bool | number | string => exact fun _ => rfl
  | array items ih => exact fun path => map_snd_leavesAtItems ih path 0
  | object members ih => exact fun path => map_snd_leavesAtMembers ih path 0

theorem pairwise_leavesAt (j : Json) :
    ∀ path, (j.leavesAt path).Pairwise fun x y => x.1 < y.1 := by
  induction j using Json.inductionOn with
  | null | bool | number => exact fun _ => .nil
  | string s => exact fun path => List.pairwise_singleton _ _
  | array items ih =>
    intro path
    rw [leavesAt, leavesAtItems_eq]
    exact pairwise_inParts fun i item found => ih item (List.mem_of_getElem? found) _
  | object members ih =>
    intro path
    rw [leavesAt, leavesAtMembers_eq]
    exact pairwise_inParts fun i member found => ih member (List.mem_of_getElem? found) _

/-- **Listed are the strings of a value, and all of them.** -/
theorem mem_leavesAt_iff (j : Json) :
    ∀ {path : String} {address : Address} {leaf : Leaf},
      (address, leaf) ∈ j.leavesAt path ↔
        StandsAt (.string leaf.text) path j address leaf.path := by
  induction j using Json.inductionOn with
  | null | bool | number =>
    intro path address leaf
    exact ⟨fun mem => absurd mem List.not_mem_nil, fun h => nomatch h⟩
  | string s =>
    intro path address leaf
    rw [leavesAt, List.mem_singleton, Prod.mk.injEq]
    constructor
    · rintro ⟨rfl, rfl⟩
      exact .self path
    · intro h
      cases h
      exact ⟨rfl, rfl⟩
  | array items ih =>
    intro path address leaf
    rw [leavesAt, leavesAtItems_eq, mem_inParts_iff]
    constructor
    · rintro ⟨i, item, rest, found, rfl, inside⟩
      rw [Nat.zero_add] at inside ⊢
      exact .item found ((ih item (List.mem_of_getElem? found)).1 inside)
    · intro h
      cases h with
      | @item _ _ _ i item rest found inside =>
        refine ⟨i, item, rest, found, by rw [Nat.zero_add], ?_⟩
        rw [Nat.zero_add]
        exact (ih item (List.mem_of_getElem? found)).2 inside
  | object members ih =>
    intro path address leaf
    rw [leavesAt, leavesAtMembers_eq, mem_inParts_iff]
    constructor
    · rintro ⟨i, member, rest, found, rfl, inside⟩
      rw [Nat.zero_add]
      exact .member found ((ih member (List.mem_of_getElem? found)).1 inside)
    · intro h
      cases h with
      | @member _ _ _ i key value rest found inside =>
        exact ⟨i, (key, value), rest, found, by rw [Nat.zero_add],
          (ih _ (List.mem_of_getElem? found)).2 inside⟩

-- Two strings at one place, but at two addresses.
example :
    leavesAt "$" (.object [("a.b", .string "x"), ("a", .object [("b", .string "y")])]) =
      [([0], ⟨"$.a.b", "x"⟩), ([1, 0], ⟨"$.a.b", "y"⟩)] := by
  decide

end PushNotice.Json
