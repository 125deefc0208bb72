import Mathlib
import PushNotice.Proofs.Text.ByteOrder
import PushNotice.Template.Directory

/-!
# PushNotice.Proofs.Template.History

**Registries over time.** A registry changes when a template is inserted or a directory is loaded,
and a load that meets a fault keeps what it registered before. All changes come down to the
templates that they register, one after the other (`after_eq_register`), so what one insertion
preserves is preserved by every history. The default template is stored twice; `Coherent` says that
the two stay the same.
-/

namespace PushNotice.Template

/-! ### Changes -/

/-- A change to a registry. -/
inductive Change where
  /-- A template is inserted under a name. -/
  | insert (name : String) (template : Template)
  /-- The templates in a directory are loaded. -/
  | load (files : Files.Source) (directory : String)

/-- A template and the name under which it is registered. -/
abbrev Registration := String × Template

/-- The templates in files, up to the first file that holds none. -/
def registrationsIn : List File → List Registration
  | [] => []
  | file :: files =>
    match file.read with
    | .error _ => []
    | .ok template => (file.name, template) :: registrationsIn files

namespace Change

/-- The registry after a change, whether or not it met a fault. -/
def apply (registry : Registry) : Change → Registry
  | insert name template => registry.insert name template
  | load files directory => (registry.loadDirectory files directory).registry

/-- What a change registers, in order. -/
def registrations : Change → List Registration
  | insert name template => [(name, template)]
  | load files directory =>
    match files.list directory with
    | .error _ => []
    | .ok entries => registrationsIn (File.ofEntries directory entries)

end Change

/-- The template that was registered last under a name. -/
def latest? (name : String) (registrations : List Registration) : Option Template :=
  registrations.reverse.lookup name

namespace Registry

/-- The registry after changes to the built-in one. -/
def after (changes : List Change) : Registry :=
  changes.foldl Change.apply builtin

/-- The registry with templates registered one after the other. -/
def register (registry : Registry) (registrations : List Registration) : Registry :=
  registrations.foldl (fun registry (name, template) => registry.insert name template) registry

theorem register_cons (registry : Registry) (name : String) (template : Template)
    (later : List Registration) :
    registry.register ((name, template) :: later) =
      (registry.insert name template).register later := rfl

theorem register_append (registry : Registry) (earlier later : List Registration) :
    registry.register (earlier ++ later) = (registry.register earlier).register later :=
  List.foldl_append

/-! ### Changes as registrations -/

theorem loadFiles_registry (registry : Registry) (count : Nat) (files : List File) :
    (registry.loadFiles count files).registry = registry.register (registrationsIn files) := by
  induction files generalizing registry count with
  | nil => rfl
  | cons file files ih =>
    rw [loadFiles, registrationsIn]
    cases file.read with
    | error fault => rfl
    | ok template => exact ih (registry.insert file.name template) (count + 1)

theorem apply_eq_register (registry : Registry) (change : Change) :
    change.apply registry = registry.register change.registrations := by
  cases change with
  | insert name template => rfl
  | load files directory =>
    rw [Change.apply, loadDirectory, Change.registrations]
    cases files.list directory with
    | error cause => rfl
    | ok entries => exact loadFiles_registry registry 0 _

/-- **A history is what it registers.** -/
theorem after_eq_register (changes : List Change) :
    after changes = builtin.register (changes.flatMap Change.registrations) := by
  -- By induction over the changes, from whatever registry they start.
  have step : ∀ registry : Registry, changes.foldl Change.apply registry =
      registry.register (changes.flatMap Change.registrations) := by
    induction changes with
    | nil => exact fun _ => rfl
    | cons change changes ih =>
      intro registry
      rw [List.foldl_cons, ih, apply_eq_register, List.flatMap_cons, register_append]
  exact step builtin

/-! ### The default template -/

/-- The template that stands in for others is the one registered under the default name. -/
structure Coherent (registry : Registry) : Prop where
  registered : registry.get? defaultName = some registry.fallback

theorem get?_insert (registry : Registry) (name other : String) (template : Template) :
    (registry.insert name template).get? other =
      if other = name then some template else registry.get? other :=
  NameMap.get?_insert registry.templates name other template

theorem coherent_builtin : builtin.Coherent := by
  constructor
  rw [get?, builtin, NameMap.get?_insert, if_neg (by decide), NameMap.get?_insert, if_pos rfl]

theorem Coherent.insert {registry : Registry} (h : registry.Coherent) (name : String)
    (template : Template) : (registry.insert name template).Coherent := by
  constructor
  rw [get?_insert, Registry.insert]
  by_cases same : name = defaultName
  · simp [same]
  · simp [same, Ne.symm same, h.registered]

theorem Coherent.register {registry : Registry} (h : registry.Coherent)
    (registrations : List Registration) : (registry.register registrations).Coherent := by
  induction registrations generalizing registry with
  | nil => exact h
  | cons first later ih => exact ih (h.insert first.1 first.2)

theorem coherent_after (changes : List Change) : (after changes).Coherent :=
  after_eq_register changes ▸ coherent_builtin.register _

/-! ### The last registration -/

theorem templates_register (registry : Registry) (registrations : List Registration) :
    (registry.register registrations).templates =
      registrations.foldl (fun map (name, template) => map.insert name template)
        registry.templates := by
  induction registrations generalizing registry with
  | nil => rfl
  | cons first later ih => exact ih (registry.insert first.1 first.2)

/-- What is registered last under a name is found there; under other names is what was there. -/
theorem get?_register (registry : Registry) (registrations : List Registration) (name : String) :
    (registry.register registrations).get? name =
      (latest? name registrations).or (registry.get? name) := by
  rw [get?, templates_register, NameMap.get?_foldl_insert, latest?, get?]

/-! ### Names -/

theorem mem_names_iff {registry : Registry} {name : String} :
    name ∈ registry.names ↔ (registry.get? name).isSome :=
  NameMap.mem_names_iff

/-- No name is ever lost. -/
theorem mem_names_register {registry : Registry} {name : String} (h : name ∈ registry.names)
    (registrations : List Registration) : name ∈ (registry.register registrations).names := by
  rw [mem_names_iff] at h ⊢
  rw [get?_register, Option.isSome_or, h, Bool.or_true]

theorem after_append (changes more : List Change) :
    after (changes ++ more) = (after changes).register (more.flatMap Change.registrations) := by
  rw [after_eq_register, after_eq_register, List.flatMap_append, register_append]

theorem names_ascending_bytes (registry : Registry) :
    (registry.names.map Text.encode).Pairwise (· < ·) :=
  List.pairwise_map.2 ((NameMap.names_ascending _).imp Text.encode_lt_encode)

/-! ### Looking a name up -/

/-- **Every history leaves a registry in order.** The default template is registered and stands in
for every name that is not; a name that is there stands for its own template, the last one that
was registered under it. Names are never lost, and are listed once each in the order of their
bytes. -/
theorem resolve_after (changes : List Change) :
    let registry := after changes
    registry.get? defaultName = some registry.fallback ∧
    (∀ name, name ∉ registry.names → ∃ template,
      registry.get? defaultName = some template ∧
        registry.resolve name = ⟨defaultName, template, .fallback⟩) ∧
    (∀ name ∈ registry.names, ∃ template,
      registry.get? name = some template ∧
        registry.resolve name = ⟨name, template, .requested⟩) ∧
    (∀ name, registry.get? name =
      (latest? name (changes.flatMap Change.registrations)).or (builtin.get? name)) ∧
    (∀ more, ∀ name ∈ registry.names, name ∈ (after (changes ++ more)).names) ∧
    (∀ name, name ∈ registry.names ↔ (registry.get? name).isSome) ∧
    (registry.names.map Text.encode).Pairwise (· < ·) := by
  intro registry
  have registered := (coherent_after changes).registered
  refine ⟨registered, fun name missing => ?_, fun name mem => ?_, fun name => ?_,
    fun more name mem => ?_, fun name => mem_names_iff, names_ascending_bytes registry⟩
  · have absent : registry.get? name = none :=
      Option.not_isSome_iff_eq_none.1 (mem_names_iff.not.1 missing)
    exact ⟨registry.fallback, registered, by rw [resolve, absent]⟩
  · obtain ⟨template, found⟩ := Option.isSome_iff_exists.1 (mem_names_iff.1 mem)
    exact ⟨template, found, by rw [resolve, found]⟩
  · rw [← get?_register, ← after_eq_register]
  · rw [after_append]
    exact mem_names_register mem _

/-- A load that overrides the default template and then meets a file that holds none. -/
theorem resolve_after_broken_load :
    let bytes := Text.encode "\x7b\"message\":\"m\",\"embed\":\x7b\x7d\x7d"
    let entries : List (String × Files.Node) := [("plain.json", .file bytes), ("zz.json", .file [])]
    let files : Files.Source := ⟨fun _ => .ok (.directory entries)⟩
    let template : Template := ⟨"m", .object [], []⟩
    let changes : List Change := [.load files "templates"]
    let more : List Change := [.insert "zz" template]
    let registry := after changes
    (builtin.loadDirectory files "templates").result =
        .error (.templateMalformed "templates/zz.json" .malformed) ∧
      "zz" ∉ registry.names ∧ registry.resolve "zz" = ⟨defaultName, template, .fallback⟩ ∧
      detailedName ∈ registry.names ∧
      registry.resolve detailedName = ⟨detailedName, detailed, .requested⟩ ∧
      detailedName ∈ (after (changes ++ more)).names := by
  intro bytes entries files template changes more registry
  let good : File := ⟨"plain", .json, "templates/plain.json", .ok bytes⟩
  let bad : File := ⟨"zz", .json, "templates/zz.json", .ok []⟩
  have listed : files.list "templates" = .ok entries := rfl
  have found : File.ofEntries "templates" entries = [good, bad] := by
    have sorted : entries.mergeSort (fun a b => a.1 ≤ b.1) = entries :=
      List.mergeSort_of_pairwise (by simp [entries])
    rw [File.ofEntries, sorted]
    cbv
  have read : good.read = .ok template := by
    subst good bytes template
    cbv
  have broken : bad.read = .error (.templateMalformed "templates/zz.json" .malformed) := by cbv
  have failed : (builtin.loadDirectory files "templates").result =
      .error (.templateMalformed "templates/zz.json" .malformed) := by
    simp only [loadDirectory, listed, found, loadFiles, read, broken]
  have loaded : changes.flatMap Change.registrations = [(defaultName, template)] := by
    simp only [changes, List.flatMap_cons, List.flatMap_nil, Change.registrations, listed, found,
      registrationsIn, read, broken, List.append_nil]
    rfl
  obtain ⟨-, missing, present, lastWins, kept, named, -⟩ := resolve_after changes
  rw [loaded] at lastWins
  have absent : "zz" ∉ registry.names := by
    rw [named, lastWins]
    decide +kernel
  have there : detailedName ∈ registry.names := by
    rw [named, lastWins]
    decide +kernel
  have plainFound : registry.get? defaultName = some template := lastWins defaultName
  have detailedFound : registry.get? detailedName = some detailed := lastWins detailedName
  obtain ⟨plainTemplate, found, resolved⟩ := missing _ absent
  obtain ⟨detailedTemplate, found', resolved'⟩ := present _ there
  obtain rfl := Option.some.inj (plainFound.symm.trans found)
  obtain rfl := Option.some.inj (detailedFound.symm.trans found')
  exact ⟨failed, absent, resolved, there, resolved', kept more _ there⟩

end Registry

end PushNotice.Template
