import Mathlib.Data.String.Basic
import Mathlib.Tactic.SplitIfs
import PushNotice.Proofs.Text.Decoding
import PushNotice.Template.Directory

/-!
# PushNotice.Proofs.Template.Directory

**Which files of a directory are taken.** An entry of a directory is a file for a template by its
name alone: behind the last dot stands an extension of a format, in whatever case, and before it
the name of the template (`Holds`). In the order of the bytes of their names there is one list of
these files, however the directory is listed (`AreCandidates.unique`).
-/

namespace PushNotice.Template

/-! ### Names of files -/

/-- The extensions of a format, in lower case. -/
def Format.extensions : Format → List String
  | .yaml => ["yaml", "yml"]
  | .json => ["json"]

theorem Format.ofExtension?_eq_some_iff {extension : String} {format : Format} :
    ofExtension? extension = some format ↔ extension.toLower ∈ format.extensions := by
  unfold ofExtension?
  split
  all_goals cases format <;> simp_all [extensions]

/-- The last dot of a name parts its extension from the rest. -/
theorem splitExtension?_of_dot {before after : List Char} (h : '.' ∉ after) :
    splitExtension? (String.ofList (before ++ '.' :: after)) =
      if before = [] then none else some (String.ofList before, String.ofList after) := by
  have whole := Text.intercalate_splitAtMark '.' before
  rw [splitExtension?, String.toList_ofList, Text.splitAtMark_append_cons,
    Text.splitAtMark_of_not_mem h]
  simp only [List.getLast?_concat, List.dropLast_concat]
  cases parts : Text.splitAtMark '.' before with
  | nil => exact absurd parts (Text.splitAtMark_ne_nil '.' before)
  | cons part parts' =>
    rw [parts] at whole
    simp [whole]

theorem splitExtension?_of_no_dot {file : String} (h : '.' ∉ file.toList) :
    splitExtension? file = none := by
  rw [splitExtension?, Text.splitAtMark_of_not_mem h]
  rfl

theorem splitExtension?_eq_some_iff {file stem extension : String} :
    splitExtension? file = some (stem, extension) ↔
      file = stem ++ "." ++ extension ∧ stem ≠ "" ∧ '.' ∉ extension.toList := by
  constructor
  · intro split
    by_cases dot : '.' ∈ file.toList
    · -- The last dot is the first one from the end.
      obtain ⟨after, before, reversed, none_after⟩ :=
        List.eq_append_cons_of_mem (List.mem_reverse.2 dot)
      have whole : file = String.ofList (before.reverse ++ '.' :: after.reverse) := by
        rw [← String.toList_inj, String.toList_ofList, ← List.reverse_reverse file.toList, reversed]
        simp
      rw [whole, splitExtension?_of_dot (by simpa using none_after)] at split
      split_ifs at split with empty
      obtain ⟨rfl, rfl⟩ := Prod.mk.inj (Option.some.inj split)
      refine ⟨?_, ?_, by simpa using none_after⟩
      · rw [whole, ← String.toList_inj]
        simp
      · simpa using empty
    · rw [splitExtension?_of_no_dot dot] at split
      cases split
  · rintro ⟨rfl, named, no_dot⟩
    have whole : stem ++ "." ++ extension =
        String.ofList (stem.toList ++ '.' :: extension.toList) := by
      rw [← String.toList_inj]
      simp
    rw [whole, splitExtension?_of_dot no_dot, if_neg (by simpa using named)]
    simp

theorem not_mem_dot_of_toLower {extension : String} {format : Format}
    (h : extension.toLower ∈ format.extensions) : '.' ∉ extension.toList := by
  intro dot
  have letter_by_letter : extension.toLower.toList = extension.toList.map Char.toLower :=
    String.toList_map
  have lower : '.' ∈ extension.toLower.toList :=
    letter_by_letter ▸ List.mem_map.2 ⟨'.', dot, rfl⟩
  have letters : ∀ known ∈ format.extensions, '.' ∉ known.toList := by
    cases format <;> decide
  exact letters _ h lower

theorem nameAndFormat?_eq_some_iff {file stem : String} {format : Format} :
    nameAndFormat? file = some (stem, format) ↔
      stem ≠ "" ∧ ∃ extension : String, extension.toLower ∈ format.extensions ∧
        file = stem ++ "." ++ extension := by
  simp only [nameAndFormat?, Option.bind_eq_bind, Option.bind_eq_some_iff, Option.pure_def,
    Prod.exists, Option.some.injEq, Prod.mk.injEq, splitExtension?_eq_some_iff,
    Format.ofExtension?_eq_some_iff]
  constructor
  · rintro ⟨_, extension, ⟨rfl, named, -⟩, _, known, rfl, rfl⟩
    exact ⟨named, extension, known, rfl⟩
  · rintro ⟨named, extension, known, rfl⟩
    exact ⟨stem, extension, ⟨rfl, named, not_mem_dot_of_toLower known⟩, format, known, rfl, rfl⟩

/-! ### Files of a listing -/

/-- A listed entry is a file that is to hold a template: its name is the name of the template with
a dot and an extension of the format behind it, in whatever case. -/
structure Holds (directory : String) (name : List UInt8) (node : Files.Node) (file : File) :
    Prop where
  contents : node.contents? = some file.contents
  named : file.name ≠ ""
  extension : ∃ extension : String, extension.toLower ∈ file.format.extensions ∧
    name = Text.encode (file.name ++ "." ++ extension) ∧
    file.path = Files.entryPath directory (file.name ++ "." ++ extension)

/-- The files of a listing that are to hold templates, with their names, in the order of the bytes
of these. -/
structure AreCandidates (directory : String) (listing : List (List UInt8 × Files.Node))
    (files : List (List UInt8 × File)) : Prop where
  ascending : (files.map (·.1)).Pairwise (· < ·)
  mem_iff : ∀ name file, (name, file) ∈ files ↔
    ∃ node, (name, node) ∈ listing ∧ Holds directory name node file

theorem ofEntry?_eq_some_iff {directory text : String} {node : Files.Node} {file : File} :
    File.ofEntry? directory (text, node) = some file ↔
      Holds directory (Text.encode text) node file := by
  simp only [File.ofEntry?, Option.bind_eq_bind, Option.bind_eq_some_iff, Option.pure_def,
    Prod.exists, Option.some.injEq, nameAndFormat?_eq_some_iff]
  constructor
  · rintro ⟨contents, read, stem, format, ⟨named, extension, known, rfl⟩, rfl⟩
    exact ⟨read, named, extension, known, rfl, rfl⟩
  · rintro ⟨read, named, extension, known, same, path⟩
    obtain rfl := Text.encode_injective same
    exact ⟨file.contents, read, file.name, file.format, ⟨named, extension, known, rfl⟩,
      by rw [← path]⟩

theorem mem_seen_iff {listing : List (List UInt8 × Files.Node)} {text : String}
    {node : Files.Node} :
    (text, node) ∈ Files.seen listing ↔ (Text.encode text, node) ∈ listing := by
  simp only [Files.seen, List.mem_filterMap, Prod.exists, Option.map_eq_some_iff,
    Text.decode?_eq_some_iff, Prod.mk.injEq]
  constructor
  · rintro ⟨_, _, mem, _, rfl, rfl, rfl⟩
    exact mem
  · exact fun mem => ⟨_, _, mem, _, rfl, rfl, rfl⟩

/-- The files of a listing that are to hold templates, as they are taken. -/
def candidates (directory : String) (listing : List (List UInt8 × Files.Node)) :
    List (List UInt8 × File) :=
  ((Files.seen listing).mergeSort fun a b => a.1 ≤ b.1).filterMap fun entry =>
    (File.ofEntry? directory entry).map (Text.encode entry.1, ·)

theorem ofEntries_seen (directory : String) (listing : List (List UInt8 × Files.Node)) :
    File.ofEntries directory (Files.seen listing) = (candidates directory listing).map (·.2) := by
  rw [File.ofEntries, candidates, List.map_filterMap]
  simp only [Option.map_map, Function.comp_def, Option.map_id']

theorem mem_candidates_iff {directory : String} {listing : List (List UInt8 × Files.Node)}
    {name : List UInt8} {file : File} :
    (name, file) ∈ candidates directory listing ↔
      ∃ node, (name, node) ∈ listing ∧ Holds directory name node file := by
  simp only [candidates, List.mem_filterMap, List.mem_mergeSort, Prod.exists, mem_seen_iff,
    Option.map_eq_some_iff, ofEntry?_eq_some_iff, Prod.mk.injEq]
  constructor
  · rintro ⟨text, node, listed, _, holds, rfl, rfl⟩
    exact ⟨node, listed, holds⟩
  · rintro ⟨node, listed, holds⟩
    obtain ⟨extension, -, rfl, -⟩ := holds.extension
    exact ⟨_, node, listed, file, holds, rfl, rfl⟩

theorem seen_distinct {listing : List (List UInt8 × Files.Node)}
    (distinct : (listing.map (·.1)).Nodup) : (Files.seen listing).Pairwise (·.1 ≠ ·.1) := by
  refine (List.pairwise_map.1 distinct).filterMap _ ?_
  rintro ⟨_, _⟩ ⟨_, _⟩ other ⟨text, _⟩ first ⟨text', _⟩ second
  obtain ⟨_, decoded, same⟩ := Option.map_eq_some_iff.1 first
  obtain ⟨_, decoded', same'⟩ := Option.map_eq_some_iff.1 second
  obtain ⟨rfl, -⟩ := Prod.mk.inj same
  obtain ⟨rfl, -⟩ := Prod.mk.inj same'
  rw [Text.decode?_eq_some_iff] at decoded decoded'
  rintro rfl
  exact other (decoded.trans decoded'.symm)

theorem candidates_ascending {directory : String} {listing : List (List UInt8 × Files.Node)}
    (distinct : (listing.map (·.1)).Nodup) :
    ((candidates directory listing).map (·.1)).Pairwise (· < ·) := by
  let sorted := (Files.seen listing).mergeSort fun a b => a.1 ≤ b.1
  have ordered : sorted.Pairwise fun a b => decide (a.1 ≤ b.1) = true :=
    List.pairwise_mergeSort (fun _ _ _ => by simpa using le_trans)
      (fun a b => by simpa using le_total a.1 b.1) _
  have other : sorted.Pairwise (·.1 ≠ ·.1) :=
    ((List.mergeSort_perm _ _).pairwise_iff Ne.symm).2 (seen_distinct distinct)
  have ascending : sorted.Pairwise (·.1 < ·.1) :=
    ordered.imp₂ (fun _ _ le ne => lt_of_le_of_ne (of_decide_eq_true le) ne) other
  rw [List.pairwise_map]
  refine ascending.filterMap _ fun a b less first hfirst second hsecond => ?_
  obtain ⟨_, -, rfl⟩ := Option.map_eq_some_iff.1 hfirst
  obtain ⟨_, -, rfl⟩ := Option.map_eq_some_iff.1 hsecond
  exact Text.encode_lt_encode less

theorem areCandidates {directory : String} {listing : List (List UInt8 × Files.Node)}
    (distinct : (listing.map (·.1)).Nodup) :
    AreCandidates directory listing (candidates directory listing) :=
  ⟨candidates_ascending distinct, fun _ _ => mem_candidates_iff⟩

/-- There is one list of them, however the entries are listed. -/
theorem AreCandidates.unique {directory : String}
    {listing listing' : List (List UInt8 × Files.Node)} {files files' : List (List UInt8 × File)}
    (h : AreCandidates directory listing files) (h' : AreCandidates directory listing' files')
    (permuted : listing'.Perm listing) : files' = files := by
  have ascending := List.pairwise_map.1 h.ascending
  have ascending' := List.pairwise_map.1 h'.ascending
  have nodup : ∀ {fs : List (List UInt8 × File)}, fs.Pairwise (·.1 < ·.1) → fs.Nodup :=
    fun ordered => ordered.imp fun less => by
      rintro rfl
      exact List.lt_irrefl _ less
  refine List.Perm.eq_of_pairwise (fun a b _ _ less greater => ?_) ascending' ascending
    ((List.perm_ext_iff_of_nodup (nodup ascending') (nodup ascending)).2 fun ⟨name, file⟩ => ?_)
  · exact absurd greater (List.lt_asymm less)
  · rw [h.mem_iff, h'.mem_iff]
    simp only [permuted.mem_iff]

end PushNotice.Template
