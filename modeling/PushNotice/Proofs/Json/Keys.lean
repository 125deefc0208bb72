import Mathlib.Data.List.Nodup
import PushNotice.Json.Reader

/-!
# PushNotice.Proofs.Json.Keys

**The keys of an object are distinct.** No operation that builds an object gives it a key twice, so
no value that is read from a text has an object with one (`keysOnce_of_ofText?`). Of members without
a key twice, put one after the other over other ones, every key has the value that it has among
them, and what it had before if it is not among them (`Members.find?_foldl_insert`).
-/

namespace PushNotice.Json

/-- No object in the value has a key twice. -/
inductive KeysOnce : Json → Prop where
  | null : KeysOnce .null
  | bool (b : Bool) : KeysOnce (.bool b)
  | number (n : Number) : KeysOnce (.number n)
  | string (s : String) : KeysOnce (.string s)
  | array {items : List Json} (each : ∀ item ∈ items, KeysOnce item) : KeysOnce (.array items)
  | object {members : Members} (distinct : (members.map Prod.fst).Nodup)
      (each : ∀ member ∈ members, KeysOnce member.2) : KeysOnce (.object members)

/-! ### Members put over others -/

namespace Members

theorem mem_insert {key : String} {value : Json} {members : Members} {member : String × Json}
    (h : member ∈ insert key value members) : member = (key, value) ∨ member ∈ members := by
  induction members with
  | nil => exact .inl (List.mem_singleton.1 h)
  | cons first members ih =>
    obtain ⟨k, v⟩ := first
    rw [insert] at h
    split at h
    · next same =>
      rcases List.mem_cons.1 h with rfl | mem
      · exact .inl (by rw [same])
      · exact .inr (List.mem_cons_of_mem _ mem)
    · rcases List.mem_cons.1 h with rfl | mem
      · exact .inr List.mem_cons_self
      · exact (ih mem).imp_right (List.mem_cons_of_mem _)

/-- A key that is there stays where it is, and a new one comes behind the others. -/
theorem map_fst_insert (key : String) (value : Json) (members : Members) :
    (insert key value members).map Prod.fst =
      if key ∈ members.map Prod.fst then members.map Prod.fst
      else members.map Prod.fst ++ [key] := by
  induction members with
  | nil => rfl
  | cons first members ih =>
    obtain ⟨k, v⟩ := first
    rw [insert]
    split
    · next same => simp [same]
    · next distinct =>
      rw [List.map_cons, ih]
      by_cases mem : key ∈ members.map Prod.fst
      · simp [mem]
      · simp [mem, Ne.symm distinct]

theorem nodup_insert {key : String} {value : Json} {members : Members}
    (h : (members.map Prod.fst).Nodup) : ((insert key value members).map Prod.fst).Nodup := by
  rw [map_fst_insert]
  split
  · exact h
  · next new =>
    refine List.nodup_append.2 ⟨h, List.nodup_singleton key, fun k mem k' mem' => ?_⟩
    obtain rfl := List.mem_singleton.1 mem'
    exact fun same => new (same ▸ mem)

theorem find?_eq_none_iff {key : String} {members : Members} :
    find? key members = none ↔ key ∉ members.map Prod.fst := by
  constructor
  · induction members with
    | nil => simp
    | cons first members ih =>
      intro missing
      rw [find?] at missing
      split at missing
      · simp at missing
      · next distinct =>
        rw [List.map_cons, List.mem_cons, not_or]
        exact ⟨Ne.symm distinct, ih missing⟩
  · exact find?_of_not_mem

section

variable {bindings base : Members}

theorem mem_foldl_insert {member : String × Json}
    (h : member ∈ bindings.foldl (fun members (key, value) => insert key value members) base) :
    member ∈ bindings ∨ member ∈ base := by
  induction bindings generalizing base with
  | nil => exact .inr h
  | cons binding bindings ih =>
    obtain ⟨key, value⟩ := binding
    rcases ih h with mem | mem
    · exact .inl (List.mem_cons_of_mem _ mem)
    · rcases mem_insert mem with rfl | mem
      · exact .inl List.mem_cons_self
      · exact .inr mem

theorem nodup_foldl_insert (h : (base.map Prod.fst).Nodup) :
    ((bindings.foldl (fun members (key, value) => insert key value members) base).map
      Prod.fst).Nodup := by
  induction bindings generalizing base with
  | nil => exact h
  | cons binding bindings ih => exact ih (nodup_insert h)

/-- **What a key has after members were put over others**: what it has among them, or else what it
had before. -/
theorem find?_foldl_insert (distinct : (bindings.map Prod.fst).Nodup) (key : String) :
    find? key (bindings.foldl (fun members (key, value) => insert key value members) base) =
      (find? key bindings).or (find? key base) := by
  induction bindings generalizing base with
  | nil => rfl
  | cons binding bindings ih =>
    obtain ⟨k, v⟩ := binding
    obtain ⟨new, distinctRest⟩ := List.nodup_cons.1 distinct
    rw [List.foldl_cons, ih distinctRest, find?_insert, find?]
    by_cases same : k = key
    · subst same
      rw [find?_of_not_mem new]
      simp
    · simp [same, Ne.symm same]

/-- **The keys of members that were put over others**: those of the others stay where they are, and
the new ones come behind them in their order. -/
theorem map_fst_foldl_insert (distinct : (bindings.map Prod.fst).Nodup) :
    (bindings.foldl (fun members (key, value) => insert key value members) base).map Prod.fst =
      base.map Prod.fst ++ (bindings.map Prod.fst).filter fun key => key ∉ base.map Prod.fst := by
  induction bindings generalizing base with
  | nil => simp
  | cons binding bindings ih =>
    obtain ⟨k, v⟩ := binding
    obtain ⟨new, distinctRest⟩ := List.nodup_cons.1 distinct
    rw [List.foldl_cons, ih distinctRest, map_fst_insert, List.map_cons]
    by_cases known : k ∈ base.map Prod.fst
    · rw [if_pos known, List.filter_cons_of_neg (by simpa using known)]
    · -- What is put in later has another key, so that it is as new as it was before.
      have others : (bindings.map Prod.fst).filter (fun key => key ∉ base.map Prod.fst ++ [k]) =
          (bindings.map Prod.fst).filter fun key => key ∉ base.map Prod.fst := by
        refine List.filter_congr fun key mem => ?_
        have distinctKey : key ≠ k := fun same => new (same ▸ mem)
        simp [distinctKey]
      rw [if_neg known, List.filter_cons_of_pos (by simpa using known), others, List.append_assoc,
        List.singleton_append]

end

/-- Members are determined by the order of their keys and by what each key has. -/
theorem ext_find? {members members' : Members} (distinct : (members.map Prod.fst).Nodup)
    (keys : members.map Prod.fst = members'.map Prod.fst)
    (values : ∀ key, find? key members = find? key members') : members = members' := by
  induction members generalizing members' with
  | nil => exact (List.map_eq_nil_iff.1 keys.symm).symm
  | cons member members ih =>
    obtain ⟨k, v⟩ := member
    obtain ⟨⟨k', v'⟩, members', rfl, rfl, keysRest⟩ := List.map_eq_cons_iff.1 keys.symm
    obtain ⟨new, distinctRest⟩ := List.nodup_cons.1 distinct
    have first : v = v' := by simpa [find?] using values k'
    have rest : members = members' := by
      refine ih distinctRest keysRest.symm fun key => ?_
      by_cases same : k' = key
      · subst same
        rw [find?_of_not_mem new, find?_of_not_mem (keysRest ▸ new)]
      · simpa [find?, same] using values key
    rw [first, rest]

end Members

/-! ### Parts of values -/

theorem KeysOnce.items {items : List Json} (h : KeysOnce (.array items)) :
    ∀ item ∈ items, KeysOnce item := by
  cases h with
  | array each => exact each

theorem KeysOnce.of_get? {j value : Json} {key : String} (h : j.KeysOnce)
    (found : j.get? key = some value) : value.KeysOnce := by
  cases h with
  | object _ each => exact each _ (Members.mem_of_find? found)
  | _ => simp [get?] at found

/-! ### Values that are read -/

section Reading

variable {α : Type} {P : α → Prop} {item : Reader α} {close : Char}

/-- What holds of everything that is read as an item holds of all items. -/
theorem forall_of_itemsUntil (each : ∀ cs x rest, item cs = some (x, rest) → P x)
    {cs rest : List Char} {xs : List α} (h : itemsUntil close item cs = some (xs, rest)) :
    ∀ x ∈ xs, P x := by
  fun_induction itemsUntil close item cs generalizing xs rest with
  | case1 | case2 | case5 | case6 | case7 => simp at h
  | case3 cs x left read after =>
    obtain ⟨rfl, -⟩ := Prod.mk.inj (Option.some.inj h)
    exact List.forall_mem_singleton.2 (each _ _ _ read)
  | case4 cs x left read after _ xs' left' more _ _ ih =>
    obtain ⟨rfl, -⟩ := Prod.mk.inj (Option.some.inj h)
    exact List.forall_mem_cons.2 ⟨each _ _ _ read, ih more⟩

theorem forall_of_itemsOf (each : ∀ cs x rest, item cs = some (x, rest) → P x)
    {cs rest : List Char} {xs : List α} (h : itemsOf close item cs = some (xs, rest)) :
    ∀ x ∈ xs, P x := by
  unfold itemsOf at h
  split at h
  · simp at h
  · split at h
    · obtain ⟨rfl, -⟩ := Prod.mk.inj (Option.some.inj h)
      exact fun x mem => absurd mem List.not_mem_nil
    · exact forall_of_itemsUntil each h

end Reading

theorem of_member? {P : Json → Prop} {value : Reader Json}
    (each : ∀ cs j rest, value cs = some (j, rest) → P j) :
    ∀ cs member rest, member? value cs = some (member, rest) → P member.2 := by
  intro cs member rest h
  unfold member? at h
  split at h
  · simp at h
  · split at h
    · obtain ⟨⟨j, left⟩, read, same⟩ := Option.map_eq_some_iff.1 h
      obtain ⟨rfl, -⟩ := Prod.mk.inj same
      exact each _ _ _ read
    · simp at h

theorem keysOnce_of_scalar? {cs rest : List Char} {j : Json} (h : scalar? cs = some (j, rest)) :
    j.KeysOnce := by
  unfold scalar? at h
  split at h
  · obtain ⟨⟨s, left⟩, -, same⟩ := Option.map_eq_some_iff.1 h
    obtain ⟨rfl, -⟩ := Prod.mk.inj same
    exact .string s
  · split at h
    · unfold number? at h
      split at h
      · simp at h
      · obtain ⟨n, -, same⟩ := Option.map_eq_some_iff.1 h
        obtain ⟨rfl, -⟩ := Prod.mk.inj same
        exact .number n
    · unfold word? at h
      split at h
      · obtain ⟨rfl, -⟩ := Prod.mk.inj (Option.some.inj h)
        exact .null
      · obtain ⟨rfl, -⟩ := Prod.mk.inj (Option.some.inj h)
        exact .bool true
      · obtain ⟨rfl, -⟩ := Prod.mk.inj (Option.some.inj h)
        exact .bool false
      · simp at h
  · simp at h

theorem keysOnce_of_value? (levels : Nat) :
    ∀ cs j rest, value? levels cs = some (j, rest) → j.KeysOnce := by
  induction levels with
  | zero => exact fun cs j rest h => keysOnce_of_scalar? h
  | succ levels ih =>
    intro cs j rest h
    unfold value? at h
    split at h
    · obtain ⟨⟨items, left⟩, read, same⟩ := Option.map_eq_some_iff.1 h
      obtain ⟨rfl, -⟩ := Prod.mk.inj same
      exact .array (forall_of_itemsOf ih read)
    · obtain ⟨⟨bindings, left⟩, read, same⟩ := Option.map_eq_some_iff.1 h
      obtain ⟨rfl, -⟩ := Prod.mk.inj same
      have each := forall_of_itemsOf (of_member? ih) read
      refine .object (Members.nodup_foldl_insert List.nodup_nil) fun member mem => ?_
      exact each member ((Members.mem_foldl_insert mem).resolve_right List.not_mem_nil)
    · exact keysOnce_of_scalar? h

/-- **A value that is read has no key twice** in any of its objects. -/
theorem keysOnce_of_ofText? {s : String} {j : Json} (h : ofText? s = some j) : j.KeysOnce := by
  unfold ofText? wholeText? at h
  split at h
  · next read =>
    split at h
    · obtain rfl := Option.some.inj h
      exact keysOnce_of_value? _ _ _ _ read
    · simp at h
  · simp at h

end PushNotice.Json
