import PushNotice.Proofs.Json.Shape
import PushNotice.Proofs.Notice.Assembly

/-!
# PushNotice.Proofs.Notice.Firmness

**What is left out of a notice is decided by its design.** Only empty embeds are left out, and
whether an embed is empty shows in the shape of its template, strings apart: a placeholder that has
no value, or is malformed, empties the string that it stands in and never removes a field. So a
design of templates that are neither strings nor empty (`Design.Firm`) gives all of its embeds
(`build_embeds_of_firm`), one for every chosen commit and one for every extra one.
-/

namespace PushNotice

open Placeholder (Resolver materialize)

/-- The template is no string and not empty. -/
def Json.Firm (template : Json) : Prop :=
  (∀ s, template ≠ .string s) ∧ template.isFalsy = false

/-- All embeds of the design are firm. -/
structure Notice.Design.Firm (design : Notice.Design) : Prop where
  embed : design.embed.Firm
  extras : ∀ extra ∈ design.extras, extra.Firm

section

variable {resolve : Resolver} {context : Json}

/-- **Filling in does not decide whether a value is empty**, strings apart. -/
theorem Placeholder.isFalsy_materialize {template : Json} (h : ∀ s, template ≠ .string s) :
    (materialize resolve context template).isFalsy = template.isFalsy := by
  have shape : Json.SameShape (fun _ _ => True) template (materialize resolve context template) :=
    Json.sameShape_mapStrings (fun _ => trivial) template
  exact shape.isFalsy_eq h

theorem Json.Firm.isFalsy_materialize {template : Json} (h : template.Firm) :
    (materialize resolve context template).isFalsy = false :=
  (Placeholder.isFalsy_materialize h.1).trans h.2

end

namespace Notice

section

variable {design : Design} (firm : design.Firm) (resolve : Resolver) (filter : Commit.Filter)
  (context : Context) (commits : List Json)

include firm

/-- **A firm design loses no embed.** -/
theorem build_embeds_of_firm :
    (build resolve design filter context commits).embeds =
      commitEmbeds resolve design filter context commits ++ extraEmbeds resolve design context := by
  refine List.filter_eq_self.2 fun embed mem => ?_
  rw [Bool.not_eq_true']
  rcases List.mem_append.1 mem with mem | mem
  · obtain ⟨commit, -, rfl⟩ := List.mem_map.1 mem
    exact firm.embed.isFalsy_materialize
  · obtain ⟨extra, configured, rfl⟩ := List.mem_map.1 mem
    exact (firm.extras extra configured).isFalsy_materialize

end

/-- A design with an empty embed, strings apart, has no embed for any commit. -/
theorem build_embeds_of_falsy {design : Design} (noString : ∀ s, design.embed ≠ .string s)
    (falsy : design.embed.isFalsy = true) (resolve : Resolver) (filter : Commit.Filter)
    (context : Context) (commits : List Json) :
    (build resolve design filter context commits).embeds =
      extraPart resolve design context := by
  have none : solid (commitEmbeds resolve design filter context commits) = [] := by
    refine List.filter_eq_nil_iff.2 fun embed mem => ?_
    obtain ⟨commit, -, rfl⟩ := List.mem_map.1 mem
    have empty : (commitEmbed resolve design context commit).isFalsy = true :=
      (Placeholder.isFalsy_materialize noString).trans falsy
    rw [empty]
    decide
  rw [build_embeds, none, List.nil_append]

/-- The embed of a chosen commit is the one of the selected commit with its number. -/
theorem getElem?_commitEmbeds (resolve : Resolver) (design : Design) (filter : Commit.Filter)
    (context : Context) (commits : List Json) {i : Nat}
    (h : i < (chosen design filter commits).length) :
    (commitEmbeds resolve design filter context commits)[i]? =
      ((filter.select commits)[i]?).map (commitEmbed resolve design context) := by
  have chosenFrom : i < design.quota := by
    rw [chosen, List.length_take] at h
    omega
  rw [commitEmbeds, List.getElem?_map, chosen, List.getElem?_take_of_lt chosenFrom]

/-- **No commit is lost without notice.** Filling in keeps a template empty or not empty, if it is
no string. So with templates that are neither strings nor empty a notice has an embed for every
selected commit for which there is room and one for every extra embed: the first ones are filled in
from the selected commits in their order, the last ones from the extra templates in theirs, whatever
becomes of single placeholders. -/
theorem embeds_of_firm_design (resolve : Resolver) :
    (∀ context template : Json, (∀ s, template ≠ .string s) →
      (materialize resolve context template).isFalsy = template.isFalsy) ∧
    ∀ (design : Design) (filter : Commit.Filter) (context : Context) (commits : List Json),
      design.Firm →
      let selected := filter.select commits
      let room := min (10 - design.extras.length) selected.length
      let embeds := (build resolve design filter context commits).embeds
      embeds.length = room + design.extras.length ∧
      (∀ i, i < room → embeds[i]? = selected[i]?.map fun commit =>
        materialize resolve (context.forCommit (Commit.annotate commit)) design.embed) ∧
      (∀ i, embeds[room + i]? = design.extras[i]?.map fun extra =>
        materialize resolve context.shared extra) := by
  refine ⟨fun context template => Placeholder.isFalsy_materialize, ?_⟩
  intro design filter context commits firm selected room embeds
  have whole : embeds = commitEmbeds resolve design filter context commits ++
      extraEmbeds resolve design context := build_embeds_of_firm firm ..
  have ofCommits : (commitEmbeds resolve design filter context commits).length = room := by
    rw [commitEmbeds, List.length_map, length_chosen]
  have ofExtras : (extraEmbeds resolve design context).length = design.extras.length :=
    List.length_map _
  refine ⟨?_, fun i early => ?_, fun i => ?_⟩
  · rw [whole, List.length_append, ofCommits, ofExtras]
  · have early' : i < (chosen design filter commits).length := by rwa [length_chosen]
    rw [whole, List.getElem?_append_left (ofCommits.symm ▸ early),
      getElem?_commitEmbeds (h := early')]
    rfl
  · rw [whole, List.getElem?_append_right (by omega), ofCommits, Nat.add_sub_cancel_left,
      extraEmbeds, List.getElem?_map]

/-- Nine extra embeds leave room for one of two commits; a malformed placeholder and an unknown one
are all that its embed has. -/
theorem embeds_of_firm_design_malformed :
    let design : Design :=
      ⟨"", .array [.string "\x7b\x7b a..b \x7d\x7d", .string "\x7b\x7b commit.none \x7d\x7d"],
        List.replicate 9 (.object [("a", .string "\x7b\x7b x \x7d\x7d")])⟩
    let filter : Commit.Filter := ⟨false, ⟨[]⟩, ⟨[]⟩⟩
    let embeds :=
      (build Placeholder.pathResolver design filter ⟨[]⟩ [.object [], .null]).embeds
    (∀ s, design.embed ≠ .string s) ∧ design.Firm ∧ embeds.length = 10 ∧
    embeds[0]? = some (.array [.string "", .string ""]) := by
  intro design filter embeds
  have notString : ∀ s, design.embed ≠ .string s := by simp [design]
  have firm : design.Firm := by
    refine ⟨⟨notString, rfl⟩, fun extra mem => ?_⟩
    obtain rfl := List.eq_of_mem_replicate mem
    exact ⟨by simp, rfl⟩
  have selected : filter.select [.object [], .null] = [.object [], .null] := rfl
  obtain ⟨kept, notice⟩ := embeds_of_firm_design Placeholder.pathResolver
  obtain ⟨length, commits, -⟩ := notice design filter ⟨[]⟩ [.object [], .null] firm
  refine ⟨notString, firm, length, (commits 0 (by decide)).trans ?_⟩
  let within := Context.forCommit ⟨[]⟩ (Commit.annotate (.object []))
  have malformed : Placeholder.renderOrEmpty Placeholder.pathResolver within
      "\x7b\x7b a..b \x7d\x7d" = "" := by decide +kernel
  have unknown : Placeholder.renderOrEmpty Placeholder.pathResolver within
      "\x7b\x7b commit.none \x7d\x7d" = "" := by decide +kernel
  rw [selected, List.getElem?_cons_zero, Option.map_some]
  simp only [design, materialize, Json.mapStrings, Json.mapStringsItems]
  rw [malformed, unknown]

end Notice

end PushNotice
