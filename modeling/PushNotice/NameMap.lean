/-!
# PushNotice.NameMap

**Finite maps keyed by names.** The entries stand in ascending order of their names, compared
character by character, which is also the order of their bytes. Inserting a name that is there
replaces its value. There is one map for what the names have, in whatever order they were put in
(`ext_get?`).
-/

namespace PushNotice

/-- The entries of a map: each name is smaller than all that follow it. -/
structure NameMap (α : Type) where
  entries : List (String × α)
  sorted : entries.Pairwise (·.1 < ·.1)

namespace NameMap

variable {α : Type}

/-- The map without entries. -/
def empty : NameMap α := ⟨[], .nil⟩

/-! ### Insertion -/

/-- The entries with `name` bound to `value`, put where the order wants it. -/
def insertEntry (name : String) (value : α) : List (String × α) → List (String × α)
  | [] => [(name, value)]
  | (n, v) :: rest =>
    if name < n then (name, value) :: (n, v) :: rest
    else if n = name then (name, value) :: rest
    else (n, v) :: insertEntry name value rest

theorem mem_insertEntry {name : String} {value : α} {entries : List (String × α)}
    {entry : String × α} (h : entry ∈ insertEntry name value entries) :
    entry.1 = name ∨ entry ∈ entries := by
  induction entries with
  | nil => simp_all [insertEntry]
  | cons e rest ih =>
    obtain ⟨n, v⟩ := e
    rw [insertEntry] at h
    split at h
    · rcases List.mem_cons.1 h with rfl | h
      · exact .inl rfl
      · exact .inr h
    · split at h
      · rcases List.mem_cons.1 h with rfl | h
        · exact .inl rfl
        · exact .inr (List.mem_cons_of_mem _ h)
      · rcases List.mem_cons.1 h with rfl | h
        · exact .inr List.mem_cons_self
        · exact (ih h).imp_right (List.mem_cons_of_mem _)

theorem sorted_insertEntry {name : String} {value : α} {entries : List (String × α)}
    (h : entries.Pairwise (·.1 < ·.1)) : (insertEntry name value entries).Pairwise (·.1 < ·.1) := by
  induction entries with
  | nil => simp [insertEntry]
  | cons e rest ih =>
    obtain ⟨n, v⟩ := e
    obtain ⟨first, tail⟩ := List.pairwise_cons.1 h
    rw [insertEntry]
    split
    · next lt =>
      refine List.pairwise_cons.2 ⟨fun entry mem => ?_, h⟩
      rcases List.mem_cons.1 mem with rfl | mem
      · exact lt
      · exact String.lt_trans lt (first entry mem)
    · next notLt =>
      split
      · next same =>
        subst same
        exact List.pairwise_cons.2 ⟨first, tail⟩
      · next other =>
        refine List.pairwise_cons.2 ⟨fun entry mem => ?_, ih tail⟩
        rcases mem_insertEntry mem with same | mem
        · rw [same]
          refine Decidable.byContradiction fun ge => ?_
          exact other (String.le_antisymm (String.not_lt.1 notLt) (String.not_lt.1 ge))
        · exact first entry mem

/-- The map with `name` bound to `value`. -/
def insert (map : NameMap α) (name : String) (value : α) : NameMap α :=
  ⟨insertEntry name value map.entries, sorted_insertEntry map.sorted⟩

/-- The map of a list of bindings, of which later ones win. -/
def ofBindings (bindings : List (String × α)) : NameMap α :=
  bindings.foldl (fun map (name, value) => map.insert name value) empty

/-! ### Reading -/

/-- The value that belongs to a name. -/
def valueIn? (name : String) : List (String × α) → Option α
  | [] => none
  | (n, v) :: rest => if n = name then some v else valueIn? name rest

/-- The value that belongs to a name. -/
def get? (map : NameMap α) (name : String) : Option α :=
  valueIn? name map.entries

/-- The names in ascending order. -/
def names (map : NameMap α) : List String :=
  map.entries.map (·.1)

theorem valueIn?_insertEntry (name other : String) (value : α) (entries : List (String × α)) :
    valueIn? other (insertEntry name value entries) =
      if other = name then some value else valueIn? other entries := by
  induction entries with
  | nil => simp [insertEntry, valueIn?, eq_comm]
  | cons e rest ih =>
    obtain ⟨n, v⟩ := e
    rw [insertEntry]
    split
    · by_cases h : other = name
      · subst h; simp [valueIn?]
      · simp [valueIn?, h, Ne.symm h]
    · split
      · next same =>
        subst same
        by_cases h : other = n
        · simp [valueIn?, h]
        · simp [valueIn?, h, Ne.symm h]
      · next distinct =>
        by_cases h : other = name
        · subst h; simp [valueIn?, ih, distinct]
        · simp [valueIn?, ih, h]

/-- After an insertion the name has the new value and every other name the one it had. -/
theorem get?_insert (map : NameMap α) (name other : String) (value : α) :
    (map.insert name value).get? other = if other = name then some value else map.get? other :=
  valueIn?_insertEntry name other value map.entries

theorem isSome_valueIn?_iff {name : String} {entries : List (String × α)} :
    (valueIn? name entries).isSome ↔ name ∈ entries.map (·.1) := by
  induction entries with
  | nil => simp [valueIn?]
  | cons e rest ih =>
    obtain ⟨n, v⟩ := e
    rw [valueIn?, List.map_cons, List.mem_cons]
    by_cases h : n = name
    · simp [h]
    · simp [h, Ne.symm h, ih]

/-- The names are those that have a value. -/
theorem mem_names_iff {map : NameMap α} {name : String} :
    name ∈ map.names ↔ (map.get? name).isSome :=
  isSome_valueIn?_iff.symm

/-- The names stand in ascending order, and so each of them stands there once. -/
theorem names_ascending (map : NameMap α) : map.names.Pairwise (· < ·) :=
  List.pairwise_map.2 map.sorted

/-! ### Maps as what their names have -/

/-- After insertions a name has what was inserted last, or else what it had. -/
theorem get?_foldl_insert (bindings : List (String × α)) (map : NameMap α) (name : String) :
    (bindings.foldl (fun map (name, value) => map.insert name value) map).get? name =
      (bindings.reverse.lookup name).or (map.get? name) := by
  induction bindings generalizing map with
  | nil => rfl
  | cons binding bindings ih =>
    obtain ⟨other, value⟩ := binding
    -- The first binding counts only if none of the later ones has its name.
    rw [List.foldl_cons, ih, get?_insert, List.reverse_cons, List.lookup_append, Option.or_assoc]
    by_cases same : name = other
    · simp [same]
    · simp [same, List.lookup_cons, beq_false_of_ne same]

/-- A name that is bound more than once has the value of the last binding. -/
theorem get?_ofBindings (bindings : List (String × α)) (name : String) :
    (ofBindings bindings).get? name = bindings.reverse.lookup name := by
  have nothing : (empty : NameMap α).get? name = none := rfl
  rw [ofBindings, get?_foldl_insert, nothing, Option.or_none]

theorem valueIn?_of_lt {name : String} {entries : List (String × α)}
    (h : ∀ entry ∈ entries, name < entry.1) : valueIn? name entries = none := by
  refine Option.not_isSome_iff_eq_none.1 fun found => ?_
  obtain ⟨entry, mem, same⟩ := List.mem_map.1 (isSome_valueIn?_iff.1 found)
  exact String.lt_irrefl _ (same ▸ h entry mem)

theorem eq_of_valueIn? {entries entries' : List (String × α)}
    (sorted : entries.Pairwise (·.1 < ·.1)) (sorted' : entries'.Pairwise (·.1 < ·.1))
    (h : ∀ name, valueIn? name entries = valueIn? name entries') : entries = entries' := by
  induction entries generalizing entries' with
  | nil =>
    cases entries' with
    | nil => rfl
    | cons entry' rest' => simpa [valueIn?] using h entry'.1
  | cons entry rest ih =>
    cases entries' with
    | nil => simpa [valueIn?] using h entry.1
    | cons entry' rest' =>
      obtain ⟨n, v⟩ := entry
      obtain ⟨n', v'⟩ := entry'
      obtain ⟨least, sortedRest⟩ := List.pairwise_cons.1 sorted
      obtain ⟨least', sortedRest'⟩ := List.pairwise_cons.1 sorted'
      -- Each of the two least names would be unknown to the other map if it were smaller.
      have notLess : ¬ n < n' := by
        intro less
        have unknown : valueIn? n ((n', v') :: rest') = none :=
          valueIn?_of_lt (List.forall_mem_cons.2
            ⟨less, fun entry mem => String.lt_trans less (least' entry mem)⟩)
        rw [← h n] at unknown
        simp [valueIn?] at unknown
      have notGreater : ¬ n' < n := by
        intro less
        have unknown : valueIn? n' ((n, v) :: rest) = none :=
          valueIn?_of_lt (List.forall_mem_cons.2
            ⟨less, fun entry mem => String.lt_trans less (least entry mem)⟩)
        rw [h n'] at unknown
        simp [valueIn?] at unknown
      obtain rfl : n = n' :=
        String.le_antisymm (String.not_lt.1 notGreater) (String.not_lt.1 notLess)
      have first : v = v' := by simpa [valueIn?] using h n
      have others : rest = rest' := by
        refine ih sortedRest sortedRest' fun name => ?_
        by_cases same : n = name
        · subst same
          rw [valueIn?_of_lt least, valueIn?_of_lt least']
        · simpa [valueIn?, same] using h name
      rw [first, others]

/-- **A map is known by what its names have.** -/
theorem ext_get? {map map' : NameMap α} (h : ∀ name, map.get? name = map'.get? name) :
    map = map' := by
  obtain ⟨entries, sorted⟩ := map
  obtain ⟨entries', sorted'⟩ := map'
  obtain rfl : entries = entries' := eq_of_valueIn? sorted sorted' h
  rfl

end NameMap

end PushNotice
