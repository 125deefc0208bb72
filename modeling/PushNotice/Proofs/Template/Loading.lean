import PushNotice.Proofs.Template.Directory
import PushNotice.Proofs.Template.History

/-!
# PushNotice.Proofs.Template.Loading

**What loading a directory leaves.** The files for templates are taken in the order of their names,
up to the first one that holds no template. Either all of them are registered and counted, or what
is before that one is registered and its fault is the result (`Leaves`). As there is one order of
the files, it does not matter how the directory is listed.
-/

namespace PushNotice.Template

/-! ### Files that hold templates -/

/-- The templates that files hold, one each. -/
def Hold (files : List File) (templates : List Template) : Prop :=
  files.map File.read = templates.map .ok

/-- Templates under the names of the files that hold them. -/
def registrationsOf (files : List File) (templates : List Template) : List Registration :=
  (files.map File.name).zip templates

/-- The reports on the files whose templates are registered. -/
def registeredEvents (files : List File) : List Log.Event :=
  files.map fun file => .templateRegistered file.name file.path

theorem Hold.cons {file : File} {template : Template} {files : List File}
    {templates : List Template} (read : file.read = .ok template) (hold : Hold files templates) :
    Hold (file :: files) (template :: templates) := by
  rw [Hold, List.map_cons, List.map_cons, read, hold]

/-- Files hold templates, all of them or those before a first one that holds none. -/
theorem hold_or_first_fault (files : List File) :
    (∃ templates, Hold files templates) ∨
      ∃ before templates bad after fault, files = before ++ bad :: after ∧
        Hold before templates ∧ bad.read = .error fault := by
  induction files with
  | nil => exact .inl ⟨[], rfl⟩
  | cons file files ih =>
    cases read : file.read with
    | error fault => exact .inr ⟨[], [], file, files, fault, rfl, rfl, read⟩
    | ok template =>
      obtain ⟨templates, hold⟩ | ⟨before, templates, bad, after, fault, rfl, hold, failed⟩ := ih
      · exact .inl ⟨_, hold.cons read⟩
      · exact .inr ⟨_, _, bad, after, fault, rfl, hold.cons read, failed⟩

/-- Files that hold templates are taken, and loading goes on behind them. -/
theorem loadFiles_append {files : List File} {templates : List Template}
    (hold : Hold files templates) (later : List File) (registry : Registry) (count : Nat) :
    registry.loadFiles count (files ++ later) =
      let loaded := (registry.register (registrationsOf files templates)).loadFiles
        (count + files.length) later
      { loaded with events := registeredEvents files ++ loaded.events } := by
  induction files generalizing templates registry count with
  | nil => rfl
  | cons file files ih =>
    cases templates with
    | nil => cases hold
    | cons template templates =>
      obtain ⟨read, rest⟩ := List.cons.inj hold
      rw [List.cons_append, Registry.loadFiles, read]
      -- The first file is counted before the others, and the length counts it after them.
      rw [List.length_cons, Nat.add_comm files.length 1, ← Nat.add_assoc]
      simp only [ih rest]
      rfl

/-- Files that hold templates are parted where the templates are. -/
theorem Hold.of_append_cons {before after : List File} {file : File} {templates : List Template}
    (hold : Hold (before ++ file :: after) templates) :
    ∃ earlier template later, templates = earlier ++ template :: later ∧ Hold before earlier ∧
      file.read = .ok template ∧ Hold after later := by
  rw [Hold, List.map_append, List.map_cons] at hold
  obtain ⟨earlier, rest, rfl, ofBefore, ofRest⟩ := List.map_eq_append_iff.1 hold.symm
  obtain ⟨template, later, rfl, read, ofAfter⟩ := List.map_eq_cons_iff.1 ofRest
  exact ⟨earlier, template, later, rfl, ofBefore.symm, read.symm, ofAfter.symm⟩

theorem Hold.length_eq {files : List File} {templates : List Template}
    (hold : Hold files templates) : files.length = templates.length := by
  simpa using congrArg List.length hold

theorem map_fst_registrationsOf {files : List File} {templates : List Template}
    (hold : Hold files templates) :
    (registrationsOf files templates).map (·.1) = files.map File.name :=
  List.map_fst_zip (by simp [hold.length_eq])

theorem registrationsOf_append_cons {before after : List File} {file : File}
    {earlier later : List Template} {template : Template} (hold : Hold before earlier) :
    registrationsOf (before ++ file :: after) (earlier ++ template :: later) =
      registrationsOf before earlier ++ (file.name, template) :: registrationsOf after later := by
  rw [registrationsOf, List.map_append, List.zip_append (by simp [hold.length_eq])]
  rfl

/-! ### What is registered -/

namespace Registry

theorem get?_register_of_not_mem {registry : Registry} {registrations : List Registration}
    {name : String} (h : name ∉ registrations.map (·.1)) :
    (registry.register registrations).get? name = registry.get? name := by
  have none_there : latest? name registrations = none := by
    rw [latest?, List.lookup_eq_none_iff]
    rintro ⟨other, template⟩ mem
    rw [bne_iff_ne]
    rintro rfl
    exact h (List.mem_map.2 ⟨_, List.mem_reverse.1 mem, rfl⟩)
  rw [get?_register, none_there, Option.none_or]

theorem get?_register_last (registry : Registry) (earlier : List Registration) {name : String}
    (template : Template) {later : List Registration} (h : name ∉ later.map (·.1)) :
    (registry.register (earlier ++ (name, template) :: later)).get? name = some template := by
  rw [register_append, register_cons, get?_register_of_not_mem h, get?_insert, if_pos rfl]

end Registry

/-- What loading leaves of files that are taken in the order of their names. -/
inductive Leaves (registry : Registry) (files : List (List UInt8 × File)) (loaded : Loaded) : Prop
  /-- All files hold templates. They are registered under the names of the files, one after the
  other, so that of files with one template name the last one counts. -/
  | all (templates : List Template)
      (hold : Hold (files.map (·.2)) templates)
      (result : loaded.result = .ok files.length)
      (registered : loaded.registry =
        registry.register (registrationsOf (files.map (·.2)) templates))
      (last : ∀ name file, (name, file) ∈ files →
        (∀ name' file', (name', file') ∈ files → file'.name = file.name → name' ≤ name) →
        ∃ template, file.read = .ok template ∧ loaded.registry.get? file.name = some template)
      (others : ∀ name, (∀ file ∈ files, file.2.name ≠ name) →
        loaded.registry.get? name = registry.get? name)
  /-- A file is the first one that holds no template. Those before it are registered, and nothing
  else is. -/
  | stopped (before : List (List UInt8 × File)) (templates : List Template)
      (bad : List UInt8 × File) (after : List (List UInt8 × File)) (fault : Fault)
      (split : files = before ++ bad :: after)
      (hold : Hold (before.map (·.2)) templates)
      (failed : bad.2.read = .error fault)
      (result : loaded.result = .error fault)
      (kind : fault.kind = .user)
      (about : (∃ cause, fault = .templateUnreadable bad.2.path cause) ∨
        ∃ flaw, fault = .templateMalformed bad.2.path flaw)
      (registered : loaded.registry =
        registry.register (registrationsOf (before.map (·.2)) templates))
      (others : ∀ name, (∀ file ∈ before, file.2.name ≠ name) →
        loaded.registry.get? name = registry.get? name)

/-- A file whose name comes last among those for one template decides that template. -/
theorem exists_get?_last {registry : Registry} {files : List (List UInt8 × File)}
    {templates : List Template} (ascending : (files.map (·.1)).Pairwise (· < ·))
    (hold : Hold (files.map (·.2)) templates) {name : List UInt8} {file : File}
    (mem : (name, file) ∈ files)
    (last : ∀ name' file', (name', file') ∈ files → file'.name = file.name → name' ≤ name) :
    ∃ template, file.read = .ok template ∧
      (registry.register (registrationsOf (files.map (·.2)) templates)).get? file.name =
        some template := by
  obtain ⟨before, after, rfl⟩ := List.append_of_mem mem
  rw [List.map_append, List.map_cons] at hold ⊢
  obtain ⟨earlier, template, later, rfl, ofBefore, read, ofAfter⟩ := hold.of_append_cons
  -- Every file behind it has a greater name, so none of them is for the same template.
  have overridden_by_none : file.name ∉ (registrationsOf (after.map (·.2)) later).map (·.1) := by
    rw [map_fst_registrationsOf ofAfter, List.map_map]
    intro again
    obtain ⟨⟨name', file'⟩, inAfter, same⟩ := List.mem_map.1 again
    have greater : name < name' := by
      rw [List.map_append, List.map_cons] at ascending
      exact (List.pairwise_cons.1 (List.pairwise_append.1 ascending).2.1).1 _
        (List.mem_map.2 ⟨_, inAfter, rfl⟩)
    exact last name' file' (by simp [inAfter]) same greater
  refine ⟨template, read, ?_⟩
  rw [registrationsOf_append_cons ofBefore,
    Registry.get?_register_last registry _ template overridden_by_none]

theorem get?_register_others {registry : Registry} {files : List (List UInt8 × File)}
    {templates : List Template} (hold : Hold (files.map (·.2)) templates) {name : String}
    (h : ∀ file ∈ files, file.2.name ≠ name) :
    (registry.register (registrationsOf (files.map (·.2)) templates)).get? name =
      registry.get? name := by
  refine Registry.get?_register_of_not_mem ?_
  rw [map_fst_registrationsOf hold, List.map_map]
  intro mem
  obtain ⟨file, inFiles, same⟩ := List.mem_map.1 mem
  exact h file inFiles same

/-- What loading leaves of files in the order of their names. -/
theorem leaves_loadFiles (registry : Registry) {files : List (List UInt8 × File)}
    (ascending : (files.map (·.1)).Pairwise (· < ·)) :
    Leaves registry files (registry.loadFiles 0 (files.map (·.2))) := by
  obtain ⟨templates, hold⟩ | ⟨before', templates, bad', after', fault, split, hold, failed⟩ :=
    hold_or_first_fault (files.map (·.2))
  · have loaded := loadFiles_append hold [] registry 0
    rw [List.append_nil] at loaded
    have registered : (registry.loadFiles 0 (files.map (·.2))).registry =
        registry.register (registrationsOf (files.map (·.2)) templates) := by
      rw [loaded]
      rfl
    refine .all templates hold ?_ registered ?_ ?_
    · rw [loaded]
      simp [Registry.loadFiles]
    · intro name file mem last
      rw [registered]
      exact exists_get?_last ascending hold mem last
    · intro name missing
      rw [registered]
      exact get?_register_others hold missing
  · obtain ⟨before, rest, rfl, rfl, ofRest⟩ := List.map_eq_append_iff.1 split
    obtain ⟨bad, after, rfl, rfl, rfl⟩ := List.map_eq_cons_iff.1 ofRest
    have loaded := loadFiles_append hold (bad.2 :: after.map (·.2)) registry 0
    rw [← split, Registry.loadFiles, failed] at loaded
    refine .stopped before templates bad after fault rfl hold failed (by rw [loaded]) ?_
      (File.read_eq_error failed) (by rw [loaded]) ?_
    · obtain ⟨cause, rfl⟩ | ⟨flaw, rfl⟩ := File.read_eq_error failed
      · rfl
      · rfl
    · intro name missing
      rw [loaded]
      exact get?_register_others hold missing

/-- **What loading a directory leaves.** The files for templates are in one order, that of the
bytes of their names, and loading them one after the other either registers what all of them hold
or stops at the first one that holds no template. It leaves the same in whatever order the entries
are listed. -/
theorem loadDirectory_by_names (registry : Registry) (source : Files.Source) (directory : String)
    (listing : List (List UInt8 × Files.Node)) (distinct : (listing.map (·.1)).Nodup)
    (listed : source.list directory = .ok (Files.seen listing)) :
    ∃ files, AreCandidates directory listing files ∧
      (∀ files', AreCandidates directory listing files' → files' = files) ∧
      Leaves registry files (registry.loadDirectory source directory) ∧
      ∀ source' listing', listing'.Perm listing →
        source'.list directory = .ok (Files.seen listing') →
        registry.loadDirectory source' directory = registry.loadDirectory source directory := by
  have chosen : AreCandidates directory listing (candidates directory listing) :=
    areCandidates distinct
  have loaded : ∀ {source' listing'}, source'.list directory = .ok (Files.seen listing') →
      registry.loadDirectory source' directory =
        registry.loadFiles 0 ((candidates directory listing').map (·.2)) := fun listed' => by
    rw [Registry.loadDirectory, listed', ← ofEntries_seen]
  refine ⟨candidates directory listing, chosen, fun files' h => chosen.unique h (.refl _), ?_, ?_⟩
  · rw [loaded listed]
    exact leaves_loadFiles registry chosen.ascending
  · intro source' listing' permuted listed'
    have distinct' : (listing'.map (·.1)).Nodup := (permuted.map _).nodup_iff.2 distinct
    rw [loaded listed, loaded listed', chosen.unique (areCandidates distinct') permuted]

/-- Two files for one template among entries that are no files for templates: the one with the
greater name decides, also if it is listed first. -/
theorem loadDirectory_by_names_colliding :
    let text := fun message : String =>
      Text.encode ("\x7b\"message\":\"" ++ message ++ "\",\"embed\":\x7b\x7d\x7d")
    let listing : List (List UInt8 × Files.Node) :=
      [(Text.encode "README.md", .file []), (Text.encode "b.JSON", .file (text "earlier")),
        (Text.encode "b.json", .file (text "later")), (Text.encode "c.yaml", .directory []),
        ([0xFF], .file [])]
    let source := fun listing : List (List UInt8 × Files.Node) =>
      (⟨fun _ => .ok (.directory (Files.seen listing))⟩ : Files.Source)
    let loaded := Registry.builtin.loadDirectory (source listing.reverse) "templates"
    (listing.map (·.1)).Nodup ∧ loaded.result = .ok 2 ∧
      loaded.registry.get? "b" = some ⟨"later", .object [], []⟩ ∧
      ∃ files, AreCandidates "templates" listing files ∧ Leaves .builtin files loaded := by
  intro text listing source loaded
  let earlier : File := ⟨"b", .json, "templates/b.JSON", .ok (text "earlier")⟩
  let later : File := ⟨"b", .json, "templates/b.json", .ok (text "later")⟩
  have distinct : (listing.map (·.1)).Nodup := by decide +kernel
  obtain ⟨files, chosen, -, leaves, permuted⟩ :=
    loadDirectory_by_names .builtin (source listing) "templates" listing distinct rfl
  have same : loaded = Registry.builtin.loadDirectory (source listing) "templates" :=
    permuted (source listing.reverse) _ listing.reverse_perm rfl
  have entries : Files.seen listing = [("README.md", .file []), ("b.JSON", .file (text "earlier")),
      ("b.json", .file (text "later")), ("c.yaml", .directory [])] := by
    have no_text : Text.decode? [0xFF] = none := by cbv
    simp [Files.seen, listing, no_text]
  have found : File.ofEntries "templates" (Files.seen listing) = [earlier, later] := by
    rw [entries, File.ofEntries, List.mergeSort_of_pairwise (by simp)]
    cbv
  have read : earlier.read = .ok ⟨"earlier", .object [], []⟩ := by
    simp only [earlier, text, File.read, Text.decode?_encode]
    cbv
  have read' : later.read = .ok ⟨"later", .object [], []⟩ := by
    simp only [later, text, File.read, Text.decode?_encode]
    cbv
  have taken : loaded = Registry.builtin.loadFiles 0 [earlier, later] := by
    rw [same, ← found]
    rfl
  refine ⟨distinct, ?_, ?_, files, chosen, same ▸ leaves⟩
  · simp only [taken, Registry.loadFiles, read, read']
  · simp only [taken, Registry.loadFiles, read, read', Registry.get?_insert]
    rfl

end PushNotice.Template
