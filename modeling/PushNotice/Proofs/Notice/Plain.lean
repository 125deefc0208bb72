import PushNotice.Proofs.Commit.Annotation
import PushNotice.Proofs.Context.Lookup
import PushNotice.Proofs.Json.RoundTrip
import PushNotice.Proofs.Notice.Firmness
import PushNotice.Proofs.Options.Layers
import PushNotice.Proofs.Placeholder.Printing
import PushNotice.Proofs.Result
import PushNotice.Proofs.Run.Parts
import PushNotice.Proofs.Text.Decoding

/-!
# PushNotice.Proofs.Notice.Plain

**What a notice shows without any option.** The default template has a title, a description and the
name of an author for every commit. Each of them is one placeholder and no literal text, so what is
shown is the text of a field of the commit, as it is (`materialize_plainEmbed`): a placeholder
within a commit message stays what it is, since values are not looked at again.

The theorem speaks of commits whose objects have no key twice. All commits of an event are such,
because they were read from a text (`PushEvent.keysOnce_of_mem_commits`), so that nothing is assumed
of the commits in a run.
-/

namespace PushNotice

open Placeholder (Path pathResolver materialize textAt)

/-! ### Contexts and events -/

theorem Context.textAt_forCommit (context : Context) (commit : Json) (path : Path) :
    textAt (context.forCommit commit) (.key "commit" :: path) = textAt commit path := by
  rw [textAt, lookup?_forCommit, textAt]

theorem PushEvent.payload_of_ofJson {payload : Json} {event : PushEvent}
    (h : ofJson payload = .ok event) : event.payload = payload := by
  unfold ofJson at h
  split at h
  · split at h
    case h_4 => simp at h
    all_goals
      obtain rfl := Except.ok.inj h
      rfl
  · simp at h

theorem PushEvent.exists_text_of_load {files : Files.Source} {path : String} {event : PushEvent}
    (h : load files path = .ok event) : ∃ text, Json.ofText? text = some event.payload := by
  unfold load at h
  split at h
  · simp at h
  · next text _ =>
    have h := mapError_eq_ok_iff.1 h
    unfold ofText at h
    split at h
    · next read => exact ⟨text, by rw [read, payload_of_ofJson h]⟩
    · simp at h

theorem PushEvent.keysOnce_of_mem_commits {files : Files.Source} {path : String}
    {event : PushEvent} (h : load files path = .ok event) :
    ∀ commit ∈ event.commits, commit.KeysOnce := by
  obtain ⟨text, parsed⟩ := exists_text_of_load h
  have payload : event.payload.KeysOnce := Json.keysOnce_of_ofText? parsed
  unfold commits
  cases found : event.payload.get? "commits" with
  | none => simp
  | some value =>
    have pushed : value.KeysOnce := payload.of_get? found
    cases value with
    | array items => exact pushed.items
    | null | bool | number | string | object => simp [Json.items?]

namespace Notice

/-! ### What is shown -/

/-- The embed shows the title, the description and the name of the author of a commit, the first two
from its message unless the commit has them as fields. -/
def Shows (commit embed : Json) : Prop :=
  ∃ parts, Commit.PartedAs (Commit.messageOf commit) parts ∧
    embed = .object [
      ("title", .string (Commit.ownText commit "title" parts.title)),
      ("description", .string (Commit.ownText commit "description" parts.description)),
      ("author", .object [("name", .string (textAt commit [.key "author", .key "name"]))])]

/-- The embeds show the first ten commits, one each, in their order. -/
structure ShowsFirst (commits embeds : List Json) : Prop where
  count : embeds.length = min 10 commits.length
  each : ∀ i, i < 10 → ∀ commit, commits[i]? = some commit →
    ∃ embed, embeds[i]? = some embed ∧ Shows commit embed

/-! ### The default options -/

/-- The design of the default template without extra embeds. -/
def plainDesign : Design :=
  ⟨Template.plain.message, Template.plain.embed, []⟩

/-- The filter that lets all commits through. -/
def everyCommit : Commit.Filter :=
  ⟨false, ⟨[]⟩, ⟨[]⟩⟩

theorem resolve_initial :
    Template.Registry.builtin.resolve Options.initial.template =
      ⟨Template.defaultName, Template.plain, .requested⟩ := by
  have registered : Template.Registry.builtin.get? Options.initial.template =
      some Template.plain := by
    simp [Template.Registry.get?, Template.Registry.builtin, NameMap.get?_insert, Options.initial,
      Template.defaultName, Template.detailedName]
  rw [Template.Registry.resolve, registered]
  rfl

theorem ofTemplate_initial : Design.ofTemplate Template.plain Options.initial = .ok plainDesign :=
  rfl

theorem ofOptions_initial : Commit.Filter.ofOptions Options.initial = .ok everyCommit := rfl

theorem select_everyCommit (commits : List Json) : everyCommit.select commits = commits := by
  refine List.filter_eq_self.2 fun commit _ => ?_
  rfl

theorem firm_plainDesign : plainDesign.Firm :=
  ⟨⟨nofun, rfl⟩, fun _ mem => absurd mem List.not_mem_nil⟩

/-! ### The embed of the default template -/

/-- A text that is one placeholder and nothing else is filled in as what its path leads to. -/
theorem renderOrEmpty_of_lone {text : String} (expression : String) {path : Path}
    (found : Placeholder.layout text.toList = ⟨[⟨[], expression.toList⟩], []⟩)
    (parsed : Path.parse expression = .ok path) (context : Json) :
    Placeholder.renderOrEmpty pathResolver context text = textAt context path := by
  have parts : Placeholder.Layout.PartsOf ⟨[⟨[], expression.toList⟩], []⟩ text.toList :=
    found ▸ Placeholder.layout_partsOf text.toList
  have value : Placeholder.Hole.HasValue pathResolver context ⟨[], expression.toList⟩
      (textAt context path) := by
    rw [Placeholder.Hole.HasValue, String.ofList_toList]
    exact Placeholder.pathResolver_of_parse parsed
  rw [Placeholder.renderOrEmpty, Placeholder.render_of_values parts (.cons value .nil)]
  simp [Placeholder.Layout.withValues]

/-- **The default template shows three fields of a commit**, and nothing around them. -/
theorem materialize_plainEmbed (context : Json) :
    materialize pathResolver context Template.plain.embed = .object [
      ("title", .string (textAt context [.key "commit", .key "title"])),
      ("description", .string (textAt context [.key "commit", .key "description"])),
      ("author", .object [("name",
        .string (textAt context [.key "commit", .key "author", .key "name"]))])] := by
  have title : Placeholder.renderOrEmpty pathResolver context "\x7b\x7b commit.title \x7d\x7d" =
      textAt context [.key "commit", .key "title"] :=
    renderOrEmpty_of_lone " commit.title " (by decide +kernel) (by decide +kernel) context
  have description : Placeholder.renderOrEmpty pathResolver context
      "\x7b\x7b commit.description \x7d\x7d" =
        textAt context [.key "commit", .key "description"] :=
    renderOrEmpty_of_lone " commit.description " (by decide +kernel) (by decide +kernel) context
  have author : Placeholder.renderOrEmpty pathResolver context
      "\x7b\x7b commit.author.name \x7d\x7d" =
        textAt context [.key "commit", .key "author", .key "name"] :=
    renderOrEmpty_of_lone " commit.author.name " (by decide +kernel) (by decide +kernel) context
  unfold Template.plain materialize
  simp only [Json.mapStrings, Json.mapStringsMembers, title, description, author]

theorem shows_commitEmbed (context : Context) {commit : Json} (h : commit.KeysOnce) :
    Shows commit (commitEmbed pathResolver plainDesign context commit) := by
  refine ⟨Commit.splitMessage (Commit.messageOf commit), Commit.partedAs_iff.2 rfl, ?_⟩
  rw [commitEmbed, plainDesign, materialize_plainEmbed, Context.textAt_forCommit,
    Context.textAt_forCommit, Context.textAt_forCommit,
    Commit.textAt_annotate_derived h Commit.find?_derivedFields_title,
    Commit.textAt_annotate_derived h Commit.find?_derivedFields_description,
    Commit.textAt_annotate_own h Commit.find?_derivedFields_author (by decide)]

theorem showsFirst_build (context : Context) {commits : List Json}
    (h : ∀ commit ∈ commits, commit.KeysOnce) :
    ShowsFirst commits (build pathResolver plainDesign everyCommit context commits).embeds := by
  have whole : (build pathResolver plainDesign everyCommit context commits).embeds =
      (commits.take 10).map (commitEmbed pathResolver plainDesign context) := by
    rw [build_embeds_of_firm firm_plainDesign, commitEmbeds, chosen, select_everyCommit]
    exact List.append_nil _
  constructor
  · rw [whole, List.length_map, List.length_take]
  · intro i early commit found
    refine ⟨commitEmbed pathResolver plainDesign context commit, ?_,
      shows_commitEmbed context (h commit (List.mem_of_getElem? found))⟩
    rw [whole, List.getElem?_map, List.getElem?_take_of_lt early, found, Option.map_some]

/-! ### Runs -/

theorem result_options_initial (files : Files.Source) (path : Option String) :
    (Run.options files ⟨.empty, path, none, none⟩).result = .ok Options.initial := by
  have base : (Run.baseOptions files none).result = .ok Options.initial := rfl
  have valid : Options.initial.validate = .ok () :=
    Options.validate_eq_ok_iff.2 ⟨by decide, none, rfl⟩
  rw [Run.options, Outcome.bind_of_ok base, Options.apply_empty, Outcome.result_bind, Run.step,
    Outcome.ofExcept, valid]
  rfl

theorem result_render_initial {files : Files.Source} {path : String} {event : PushEvent}
    (h : PushEvent.load files path = .ok event) (env : Environment) :
    (Run.render files env ⟨.empty, some path, none, none⟩).result =
      .ok (build pathResolver plainDesign everyCommit (Context.ofRun env event.payload)
        event.commits) := by
  rw [Run.result_render_of_options _ _ _ (result_options_initial files (some path))]
  simp only [Run.notice, Run.registry, Run.builtinTemplates, Run.event, Outcome.result_bind,
    Outcome.pure_eq, Outcome.report, Outcome.ofExcept, resolve_initial, ofTemplate_initial,
    ofOptions_initial, h]

/-- **Without any option a notice shows the first ten commits as they are**, whatever their texts
contain: one embed each, with its title, its description and the name of its author. So does every
run that is given an event and nothing else. -/
theorem plain_shows_commits (env : Environment) :
    (∀ (payload : Json) (commits : List Json), (∀ commit ∈ commits, commit.KeysOnce) →
      ∃ design filter,
        Design.ofTemplate (Template.Registry.builtin.resolve Options.initial.template).template
          Options.initial = .ok design ∧
        Commit.Filter.ofOptions Options.initial = .ok filter ∧
        ShowsFirst commits
          (build pathResolver design filter (Context.ofRun env payload) commits).embeds) ∧
    (∀ files path event, PushEvent.load files path = .ok event →
      ∃ notice, (Run.render files env ⟨.empty, some path, none, none⟩).result = .ok notice ∧
        ShowsFirst event.commits notice.embeds) := by
  constructor
  · intro payload commits distinct
    refine ⟨plainDesign, everyCommit, ?_, ofOptions_initial, showsFirst_build _ distinct⟩
    rw [resolve_initial, ofTemplate_initial]
  · intro files path event loaded
    exact ⟨_, result_render_initial loaded env,
      showsFirst_build _ (PushEvent.keysOnce_of_mem_commits loaded)⟩

/-- A commit whose texts are placeholders, before one that is no object: a run shows the first with
these very texts. -/
theorem plain_shows_commits_hostile :
    let hostile := Json.object [
      ("message", .string "\x7b\x7b env.A \x7d\x7d\n\n\x7b\x7b"),
      ("author", .object [("name", .string "\x7b\x7b x")])]
    let event : PushEvent := ⟨.object [("commits", .array [hostile, .null])]⟩
    let files : Files.Source := ⟨fun _ => .ok (.file (Text.encode event.payload.compact))⟩
    let env := Environment.ofPairs [("A", "one")]
    (∀ commit ∈ event.commits, commit.KeysOnce) ∧
    (∃ design filter,
      (build pathResolver design filter (Context.ofRun env .null) event.commits).embeds.length =
        2) ∧
    PushEvent.load files "event.json" = .ok event ∧
    ∃ notice, (Run.render files env ⟨.empty, some "event.json", none, none⟩).result = .ok notice ∧
      notice.embeds[0]? = some (.object [
        ("title", .string "\x7b\x7b env.A \x7d\x7d"), ("description", .string "\x7b\x7b"),
        ("author", .object [("name", .string "\x7b\x7b x")])]) := by
  intro hostile event files env
  have exact : event.payload.Exact := by
    have author : (Json.object [("name", .string "\x7b\x7b x")]).Exact :=
      .object (by decide) (by simp [Json.Exact.string])
    have commit : hostile.Exact :=
      .object (by decide) (by simp [Json.Exact.string, author])
    refine .object (by decide) (List.forall_mem_singleton.2 (.array ?_))
    simp [commit, Json.Exact.null]
  have loaded : PushEvent.load files "event.json" = .ok event := by
    have contents : files.readText "event.json" = .ok event.payload.compact := by
      simp [files, Files.Source.readText]
    have shallow : event.payload.depth ≤ Json.maxDepth := by decide
    rw [PushEvent.load, contents]
    change Except.mapError _ (PushEvent.ofText event.payload.compact) = _
    rw [PushEvent.ofText, Json.ofText?_compact exact shallow]
    rfl
  have distinct := PushEvent.keysOnce_of_mem_commits loaded
  obtain ⟨lists, runs⟩ := plain_shows_commits env
  obtain ⟨design, filter, -, -, listShown⟩ := lists .null event.commits distinct
  obtain ⟨notice, rendered, shown⟩ := runs files "event.json" event loaded
  obtain ⟨embed, first, parts, parted, rfl⟩ := shown.each 0 (by decide) hostile rfl
  obtain rfl := Commit.partedAs_iff.1 parted
  have title : Commit.ownText hostile "title"
      (Commit.splitMessage (Commit.messageOf hostile)).title = "\x7b\x7b env.A \x7d\x7d" := by
    decide +kernel
  have description : Commit.ownText hostile "description"
      (Commit.splitMessage (Commit.messageOf hostile)).description = "\x7b\x7b" := by
    decide +kernel
  have author : textAt hostile [.key "author", .key "name"] = "\x7b\x7b x" := by decide +kernel
  refine ⟨distinct, ⟨design, filter, listShown.count⟩, loaded, notice, rendered, ?_⟩
  rw [first, title, description, author]

end Notice

end PushNotice
