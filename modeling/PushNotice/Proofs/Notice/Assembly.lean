import PushNotice.Notice

/-!
# PushNotice.Proofs.Notice.Assembly

**How the embeds of a notice come together.** The embeds of a notice are those of commits and then
the extra ones, without the empty ones of either. Both are written here by what they may depend on:
the embeds of commits come one by one from the first of the selected commits
(`commitEmbeds_eq`), and the part of the extra embeds (`extraPart`) knows of no commit at all.

What the size of a notice and its independence of later commits rest on is that a notice looks at
the commits only through `chosen`, the first of the selected ones (`build_congr_chosen`).
-/

namespace PushNotice.Notice

open Commit.Filter (select_append)

section

variable (resolve : Placeholder.Resolver) (design : Design) (filter : Commit.Filter)
  (context : Context) (commits : List Json)

/-! ### The two parts -/

/-- The embeds that are not left out as empty. -/
def solid (embeds : List Json) : List Json :=
  embeds.filter fun embed => !embed.isFalsy

/-- The part of the extra embeds: all of them that are not empty. -/
def extraPart : List Json :=
  solid (design.extras.map fun extra => Placeholder.materialize resolve context.shared extra)

/-- The embeds of commits, before empty ones are left out: one for each of the first commits that
are selected, as many as the extra embeds leave room for among ten. -/
theorem commitEmbeds_eq :
    commitEmbeds resolve design filter context commits =
      ((filter.select commits).take
        (min (10 - design.extras.length) (filter.select commits).length)).map fun commit =>
          Placeholder.materialize resolve (context.forCommit (Commit.annotate commit))
            design.embed := by
  have first : chosen design filter commits =
      (filter.select commits).take
        (min (10 - design.extras.length) (filter.select commits).length) := by
    rw [← List.take_take, List.take_length]
    rfl
  rw [← first]
  rfl

theorem build_embeds :
    (build resolve design filter context commits).embeds =
      solid (commitEmbeds resolve design filter context commits) ++
        extraPart resolve design context := by
  unfold build extraPart solid
  rw [← List.filter_append]
  rfl

theorem isFalsy_of_mem_solid {embeds : List Json} {embed : Json} (h : embed ∈ solid embeds) :
    embed.isFalsy = false := by
  simpa using (List.mem_filter.1 h).2

theorem length_solid_le (embeds : List Json) : (solid embeds).length ≤ embeds.length :=
  List.length_filter_le _ _

theorem length_commitEmbeds_le :
    (commitEmbeds resolve design filter context commits).length ≤ 10 - design.extras.length := by
  rw [commitEmbeds_eq, List.length_map, List.length_take]
  omega

theorem length_extraPart_le : (extraPart resolve design context).length ≤ design.extras.length := by
  refine Nat.le_trans (length_solid_le _) ?_
  exact Nat.le_of_eq (List.length_map _)

/-! ### What a notice depends on -/

variable {design filter commits} in
/-- A notice looks at the commits only through the chosen ones. -/
theorem build_congr_chosen {filter' : Commit.Filter} {commits' : List Json}
    (h : chosen design filter commits = chosen design filter' commits') :
    build resolve design filter context commits =
      build resolve design filter' context commits' := by
  unfold build commitEmbeds
  rw [h]

end

theorem context_eq_of_shared {context context' : Context} (h : context.shared = context'.shared) :
    context = context' := by
  cases context
  cases context'
  simpa [Context.shared] using h

/-- **The law of assembly.** The embeds of a notice are those of the first selected commits and
then the extra ones, without empty ones, and there are ten at most or as many as there are extra
ones. The embed of a chosen commit depends on this commit and on what all contexts share, and the
rest of the notice on no commit. What is selected beyond the first commits for which there is room
does not matter, so commits that come later change nothing once there are enough. -/
theorem build_assembled (resolve : Placeholder.Resolver) (design : Design)
    (filter : Commit.Filter) (context : Context) (commits : List Json) :
    (build resolve design filter context commits).embeds =
      solid (commitEmbeds resolve design filter context commits) ++
        extraPart resolve design context ∧
    commitEmbeds resolve design filter context commits =
      ((filter.select commits).take
        (min (10 - design.extras.length) (filter.select commits).length)).map (fun commit =>
          Placeholder.materialize resolve (context.forCommit (Commit.annotate commit))
            design.embed) ∧
    (∀ embed ∈ (build resolve design filter context commits).embeds, embed.isFalsy = false) ∧
    (build resolve design filter context commits).embeds.length ≤ max 10 design.extras.length ∧
    (∀ (filter' : Commit.Filter) (context' : Context) (commits' : List Json) (i : Nat),
      context.shared = context'.shared →
      (chosen design filter commits)[i]? = (chosen design filter' commits')[i]? →
      (commitEmbeds resolve design filter context commits)[i]? =
        (commitEmbeds resolve design filter' context' commits')[i]?) ∧
    (∀ (filter' : Commit.Filter) (commits' : List Json),
      (build resolve design filter' context commits').content =
        (build resolve design filter context commits).content ∧
      (build resolve design filter' context commits').embeds =
        solid (commitEmbeds resolve design filter' context commits') ++
          extraPart resolve design context) ∧
    (∀ (filter' : Commit.Filter) (commits' : List Json),
      (filter.select commits).take (10 - design.extras.length) =
        (filter'.select commits').take (10 - design.extras.length) →
      build resolve design filter' context commits' =
        build resolve design filter context commits) ∧
    (filter.lastOnly = false → 10 - design.extras.length ≤ (filter.select commits).length →
      ∀ more, build resolve design filter context (commits ++ more) =
        build resolve design filter context commits) := by
  refine ⟨build_embeds .., commitEmbeds_eq .., ?_, ?_, ?_, ?_, ?_, ?_⟩
  · intro embed mem
    rw [build_embeds] at mem
    rcases List.mem_append.1 mem with mem | mem
    · exact isFalsy_of_mem_solid mem
    · exact isFalsy_of_mem_solid mem
  · have ofCommits := length_commitEmbeds_le resolve design filter context commits
    have kept := length_solid_le (commitEmbeds resolve design filter context commits)
    have ofExtras := length_extraPart_le resolve design context
    -- More than ten extra embeds leave no room, so that only they count then.
    rw [build_embeds, List.length_append]
    omega
  · intro filter' context' commits' i same h
    rw [context_eq_of_shared same, commitEmbeds, commitEmbeds, List.getElem?_map,
      List.getElem?_map, h]
  · intro filter' commits'
    exact ⟨rfl, build_embeds ..⟩
  · intro filter' commits' h
    exact build_congr_chosen resolve context h.symm
  · intro all enough more
    refine build_congr_chosen resolve context ?_
    have first : (filter.select commits ++ filter.select more).take design.quota =
        (filter.select commits).take design.quota := List.take_append_of_le_length enough
    rw [chosen, chosen, select_append all, first]

/-- Nine commits fill the room that one extra embed leaves. -/
theorem build_assembled_full :
    let design : Design := ⟨"", .string "one", [.string "more"]⟩
    let filter : Commit.Filter := ⟨false, ⟨[]⟩, ⟨[]⟩⟩
    let commits := List.replicate 9 Json.null
    10 - design.extras.length ≤ (filter.select commits).length ∧
    build Placeholder.pathResolver design filter ⟨[]⟩ (commits ++ [.bool true]) =
      build Placeholder.pathResolver design filter ⟨[]⟩ commits := by
  intro design filter commits
  have enough : 10 - design.extras.length ≤ (filter.select commits).length := by decide
  have law := build_assembled Placeholder.pathResolver design filter ⟨[]⟩ commits
  exact ⟨enough, law.2.2.2.2.2.2.2 rfl enough [.bool true]⟩

end PushNotice.Notice
