import Mathlib.Data.Set.Insert
import PushNotice.Notice
import PushNotice.Proofs.Context.Lookup
import PushNotice.Proofs.Placeholder.Dependence
import PushNotice.Proofs.Placeholder.Grammar

/-!
# PushNotice.Proofs.Notice.Secrecy

**Secret variables stay secret.** A notice tells nothing of the variables in a set `S`, whatever
commits, payload and the other variables hold, if its templates do not name them: every expression
in the design is malformed, or starts elsewhere than at `env`, or goes on from `env` to a variable
outside `S`. The variables that are taken over into `github.context` by name have to be outside
`S`, too.

The proof compares two runs whose environments differ in `S` alone. Their contexts are the same but
for the member `env` (`SameBut`), a path that spares `S` looks up the same value in both, and no
value is ever looked at as a template.
-/

namespace PushNotice

open Placeholder (Path pathResolver expressionsOf expressionsIn)

/-! ### Paths that spare variables -/

/-- The path does not read a variable of `S`: it starts elsewhere than at `env`, or goes on to a
variable outside `S`. -/
def Placeholder.Path.Spares (S : Set String) (path : Path) : Prop :=
  path.head? = some (.key "env") →
    ∃ segment rest, path = .key "env" :: segment :: rest ∧ segment.memberName ∉ S

/-- The expression is malformed, or a path that does not read a variable of `S`. -/
def Placeholder.Spares (S : Set String) (expression : String) : Prop :=
  ∀ path, Path.parse expression = .ok path → path.Spares S

/-- No expression of the design reads a variable of `S`. -/
structure Notice.Design.Spares (S : Set String) (design : Notice.Design) : Prop where
  message : ∀ expression ∈ expressionsOf design.message, Placeholder.Spares S expression
  embed : ∀ expression ∈ expressionsIn design.embed, Placeholder.Spares S expression
  extras : ∀ extra ∈ design.extras, ∀ expression ∈ expressionsIn extra,
    Placeholder.Spares S expression

/-! ### Environments -/

namespace Environment

/-- The environments have the same variables outside `S`, with the same values. -/
def AgreeOutside (S : Set String) (env env' : Environment) : Prop :=
  ∀ name, name ∉ S → env.bindings.get? name = env'.bindings.get? name

variable {S : Set String} {env env' : Environment}

theorem AgreeOutside.get?_eq (h : AgreeOutside S env env') {name : String} (outside : name ∉ S) :
    env.get? name = env'.get? name := by
  rw [get?, get?, h name outside]

end Environment

/-! ### Contexts -/

namespace Context

/-- The variables that a context takes over by name. -/
def runVariables : List String := [
  "GITHUB_EVENT_NAME", "GITHUB_SHA", "GITHUB_REF", "GITHUB_WORKFLOW", "GITHUB_ACTOR",
  "GITHUB_JOB", "GITHUB_ACTION", "GITHUB_RUN_ID", "GITHUB_RUN_NUMBER", "GITHUB_RUN_ATTEMPT",
  "GITHUB_SERVER_URL", "GITHUB_API_URL", "GITHUB_GRAPHQL_URL", "GITHUB_REPOSITORY"]

/-- The contexts are the same but for the variables of two environments. -/
def SameBut (env env' : Environment) (context context' : Json) : Prop :=
  ∃ others, context = .object (("env", env.toJson) :: others) ∧
    context' = .object (("env", env'.toJson) :: others)

variable {S : Set String} {env env' : Environment}

theorem membersOf_congr {value : String → Json} {taken : List (String × String)}
    (h : ∀ entry ∈ taken, env.get? entry.2 = env'.get? entry.2) :
    membersOf env value taken = membersOf env' value taken :=
  List.filterMap_congr fun entry mem => by
    dsimp only
    rw [h entry mem]

theorem endpointMembers_congr (h : ∀ e ∈ endpoints, env.get? e.source = env'.get? e.source) :
    endpointMembers env = endpointMembers env' :=
  List.map_congr_left fun e mem => by rw [h e mem]

theorem repositoryMembers_congr (payload : Json)
    (h : env.get? repositoryVariable = env'.get? repositoryVariable) :
    repositoryMembers env payload = repositoryMembers env' payload := by
  unfold repositoryMembers repository?
  rw [h]

/-- What a context holds about the run comes from the payload and the named variables. -/
theorem runMembers_congr (payload : Json)
    (h : ∀ name ∈ runVariables, env.get? name = env'.get? name) :
    runMembers env payload = runMembers env' payload := by
  have texts : ∀ entry ∈ textVariables, entry.2 ∈ runVariables := by decide
  have counters : ∀ entry ∈ counterVariables, entry.2 ∈ runVariables := by decide
  have addresses : ∀ e ∈ endpoints, e.source ∈ runVariables := by decide
  have repository : repositoryVariable ∈ runVariables := by decide
  unfold runMembers
  rw [membersOf_congr fun entry mem => h _ (texts entry mem),
    membersOf_congr fun entry mem => h _ (counters entry mem),
    endpointMembers_congr fun e mem => h _ (addresses e mem),
    repositoryMembers_congr payload (h _ repository)]

theorem shared_sameBut (payload : Json)
    (h : ∀ name ∈ runVariables, env.get? name = env'.get? name) :
    SameBut env env' (ofRun env payload).shared (ofRun env' payload).shared :=
  ⟨[("github", .object [("context", .object (runMembers env payload))])], rfl, by
    rw [runMembers_congr payload h]; rfl⟩

theorem forCommit_sameBut (payload commit : Json)
    (h : ∀ name ∈ runVariables, env.get? name = env'.get? name) :
    SameBut env env' ((ofRun env payload).forCommit commit)
      ((ofRun env' payload).forCommit commit) :=
  ⟨[("github", .object [("context", .object (runMembers env payload))]), ("commit", commit)],
    rfl, by rw [runMembers_congr payload h]; rfl⟩

/-! ### Lookup -/

variable {context context' : Json}

/-- A path that spares `S` ends at the same value in both contexts. -/
theorem SameBut.lookup?_eq (same : SameBut env env' context context')
    (agree : env.AgreeOutside S env') {first : String} {rest : Path}
    (spares : Path.Spares S (.key first :: rest)) :
    Placeholder.lookup? context (.key first :: rest) =
      Placeholder.lookup? context' (.key first :: rest) := by
  obtain ⟨others, rfl, rfl⟩ := same
  by_cases atEnv : first = "env"
  · -- The members below `env` may differ, but not the one that the path goes on to.
    subst atEnv
    obtain ⟨segment, more, whole, outside⟩ := spares rfl
    obtain rfl := (List.cons.inj whole).2
    have variable_eq : Placeholder.step? env.toJson segment =
        Placeholder.step? env'.toJson segment := by
      rw [Environment.step?_toJson, Environment.step?_toJson, agree _ outside]
    simp only [Placeholder.lookup?_cons, step?_env, Option.bind_some, variable_eq]
  · have elsewhere : ¬ "env" = first := fun h => atEnv h.symm
    simp only [Placeholder.lookup?_cons, Placeholder.step?, Json.Members.find?, if_neg elsewhere]

/-- An expression that spares `S` has the same value, or is malformed alike, in both contexts. -/
theorem SameBut.pathResolver_eq (same : SameBut env env' context context')
    (agree : env.AgreeOutside S env') {expression : String}
    (spares : Placeholder.Spares S expression) :
    pathResolver context expression = pathResolver context' expression := by
  unfold pathResolver
  cases parsed : Path.parse expression with
  | error e => rfl
  | ok path =>
    -- A path that was read starts with a key, never with an index.
    obtain ⟨form, -, rfl⟩ := Placeholder.pathOfTrimmed_eq_ok_iff.1 parsed
    have found := same.lookup?_eq agree (spares _ parsed)
    simp only [Placeholder.textAt, Placeholder.PathForm.path, Placeholder.KeyForm.segment, found]

end Context

/-! ### Notices -/

namespace Notice

/-- Every expression of the design resolves alike in the two contexts, with any commit. -/
structure Design.ResolvesAlike (resolve : Placeholder.Resolver) (context context' : Context)
    (design : Design) : Prop where
  message : ∀ expression ∈ expressionsOf design.message,
    resolve context.shared expression = resolve context'.shared expression
  embed : ∀ commit, ∀ expression ∈ expressionsIn design.embed,
    resolve (context.forCommit commit) expression = resolve (context'.forCommit commit) expression
  extras : ∀ extra ∈ design.extras, ∀ expression ∈ expressionsIn extra,
    resolve context.shared expression = resolve context'.shared expression

section

variable {design : Design} {resolve : Placeholder.Resolver} {context context' : Context}

theorem build_congr_context (filter : Commit.Filter) (commits : List Json)
    (h : design.ResolvesAlike resolve context context') :
    build resolve design filter context commits = build resolve design filter context' commits := by
  have content : Placeholder.renderOrEmpty resolve context.shared design.message =
      Placeholder.renderOrEmpty resolve context'.shared design.message := by
    unfold Placeholder.renderOrEmpty
    rw [Placeholder.render_congr h.message]
  have ofCommits : commitEmbeds resolve design filter context commits =
      commitEmbeds resolve design filter context' commits :=
    List.map_congr_left fun commit _ => Placeholder.materialize_congr (h.embed _)
  have ofExtras : extraEmbeds resolve design context = extraEmbeds resolve design context' :=
    List.map_congr_left fun extra mem => Placeholder.materialize_congr (h.extras extra mem)
  rw [build, build, content, ofCommits, ofExtras]

theorem buildEvents_congr_context (filter : Commit.Filter) (commits : List Json)
    (h : design.ResolvesAlike resolve context context') :
    buildEvents resolve design filter context commits =
      buildEvents resolve design filter context' commits := by
  have ofMessage : blankedEvents resolve context.shared (.string design.message) =
      blankedEvents resolve context'.shared (.string design.message) :=
    congrArg _ (Placeholder.blankedFields_congr
      ((Placeholder.expressionsIn_string design.message).symm ▸ h.message))
  have ofCommits : ∀ commit ∈ chosen design filter commits,
      blankedEvents resolve (context.forCommit (Commit.annotate commit)) design.embed =
        blankedEvents resolve (context'.forCommit (Commit.annotate commit)) design.embed :=
    fun commit _ => congrArg _ (Placeholder.blankedFields_congr (h.embed _))
  have ofExtras : ∀ extra ∈ design.extras, blankedEvents resolve context.shared extra =
      blankedEvents resolve context'.shared extra :=
    fun extra mem => congrArg _ (Placeholder.blankedFields_congr (h.extras extra mem))
  rw [buildEvents, buildEvents, buildWarnings, buildWarnings, ofMessage,
    List.flatMap_congr ofCommits, List.flatMap_congr ofExtras]

end

/-- A design that spares `S` cannot tell the contexts of two environments apart that agree outside
`S`. -/
theorem Design.Spares.resolvesAlike {S : Set String} {design : Design} (spares : design.Spares S)
    {env env' : Environment} (payload : Json)
    (unnamed : ∀ name ∈ Context.runVariables, name ∉ S) (agree : env.AgreeOutside S env') :
    design.ResolvesAlike pathResolver (Context.ofRun env payload)
      (Context.ofRun env' payload) := by
  have named : ∀ name ∈ Context.runVariables, env.get? name = env'.get? name :=
    fun name mem => agree.get?_eq (unnamed name mem)
  have shared := Context.shared_sameBut payload named
  refine ⟨?_, ?_, ?_⟩
  · intro expression mem
    exact shared.pathResolver_eq agree (spares.message expression mem)
  · intro commit expression mem
    have ofCommit := Context.forCommit_sameBut payload commit named
    exact ofCommit.pathResolver_eq agree (spares.embed expression mem)
  · intro extra mem expression found
    exact shared.pathResolver_eq agree (spares.extras extra mem expression found)

/-- **Secret variables stay secret.** Two environments that agree outside `S` give the same notice
and the same reports, if the design spares `S` and no variable of `S` is taken over by name. -/
theorem build_eq_of_agreeOutside (design : Design) (filter : Commit.Filter) (payload : Json)
    (commits : List Json) (S : Set String) (env env' : Environment)
    (unnamed : ∀ name ∈ Context.runVariables, name ∉ S)
    (agree : env.AgreeOutside S env') (spares : design.Spares S) :
    build pathResolver design filter (Context.ofRun env payload) commits =
      build pathResolver design filter (Context.ofRun env' payload) commits ∧
    buildEvents pathResolver design filter (Context.ofRun env payload) commits =
      buildEvents pathResolver design filter (Context.ofRun env' payload) commits := by
  have alike := spares.resolvesAlike payload unnamed agree
  exact ⟨build_congr_context filter commits alike, buildEvents_congr_context filter commits alike⟩

/-- A commit that looks like a template, and a design with a malformed expression: a run with
another value of `SECRET` gives the same notice. -/
theorem build_eq_of_other_secret :
    let design : Design :=
      ⟨"\x7b\x7b env.HOME \x7d\x7d \x7b\x7b env[ \x7d\x7d",
        .object [("title", .string "\x7b\x7b commit.title \x7d\x7d")], []⟩
    let filter : Commit.Filter := ⟨false, ⟨[]⟩, ⟨[]⟩⟩
    let commits := [Json.object [("message", .string "\x7b\x7b env.SECRET \x7d\x7d")]]
    let env := Environment.ofPairs [("HOME", "/root"), ("SECRET", "one")]
    let env' := Environment.ofPairs [("HOME", "/root"), ("SECRET", "two")]
    (∀ name ∈ Context.runVariables, name ∉ ({"SECRET"} : Set String)) ∧
    env.AgreeOutside {"SECRET"} env' ∧ design.Spares {"SECRET"} ∧
    build pathResolver design filter (Context.ofRun env .null) commits =
      build pathResolver design filter (Context.ofRun env' .null) commits := by
  intro design filter commits env env'
  have unnamed : ∀ name ∈ Context.runVariables, name ∉ ({"SECRET"} : Set String) := by
    simp [Context.runVariables]
  have agree : env.AgreeOutside {"SECRET"} env' := by
    intro name outside
    have other : name ≠ "SECRET" := outside
    simp [env, env', Environment.ofPairs, NameMap.ofBindings, NameMap.get?_insert, other]
  have spares : design.Spares {"SECRET"} := by
    have message : expressionsOf design.message = [" env.HOME ", " env[ "] := by decide +kernel
    have embed : expressionsIn design.embed = [" commit.title "] := by decide +kernel
    have home : Path.parse " env.HOME " = .ok [.key "env", .key "HOME"] := by decide +kernel
    have open_bracket : Path.parse " env[ " = .error (.unclosedBracket 3) := by decide +kernel
    have title : Path.parse " commit.title " = .ok [.key "commit", .key "title"] := by decide +kernel
    refine ⟨?_, ?_, fun _ mem => absurd mem List.not_mem_nil⟩
    · simp [message, Placeholder.Spares, home, open_bracket, Path.Spares,
        Placeholder.Segment.memberName]
    · simp [embed, Placeholder.Spares, title, Path.Spares]
  exact ⟨unnamed, agree, spares,
    (build_eq_of_agreeOutside design filter .null commits {"SECRET"} env env' unnamed agree
      spares).1⟩

end Notice

end PushNotice
