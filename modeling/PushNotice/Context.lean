import PushNotice.Decimal.Unsigned
import PushNotice.Json.Basic
import PushNotice.NameMap
import PushNotice.Text.Cut

/-!
# PushNotice.Context

**What the placeholders of a template can speak of.** The context of a notice holds the variables
of the environment under `env`, and under `github.context` the event and what the environment
says about the run. The context of one commit holds that commit under `commit` besides.
-/

namespace PushNotice

/-! ### Environments -/

/-- The variables of an environment. -/
structure Environment where
  bindings : NameMap String

namespace Environment

/-- The environment of a list of variables, of which later ones win. -/
def ofPairs (pairs : List (String × String)) : Environment :=
  ⟨NameMap.ofBindings pairs⟩

/-- The value of a variable that is set and not empty. -/
def get? (env : Environment) (name : String) : Option String :=
  (env.bindings.get? name).filter fun value => !value.isEmpty

theorem get?_eq_some_iff {env : Environment} {name value : String} :
    env.get? name = some value ↔ env.bindings.get? name = some value ∧ value ≠ "" := by
  rw [get?, Option.filter_eq_some_iff]
  simp

theorem get?_eq_none_iff {env : Environment} {name : String} :
    env.get? name = none ↔ ∀ value, env.bindings.get? name = some value → value = "" := by
  rw [get?, Option.filter_eq_none_iff]
  simp

/-- All variables as an object of strings. -/
def toJson (env : Environment) : Json :=
  Json.ofTexts env.bindings.entries

end Environment

/-! ### The run -/

namespace Context

/-- The variables that are taken over as texts, with the keys they get. -/
def textVariables : List (String × String) := [
  ("eventName", "GITHUB_EVENT_NAME"),
  ("sha", "GITHUB_SHA"),
  ("ref", "GITHUB_REF"),
  ("workflow", "GITHUB_WORKFLOW"),
  ("actor", "GITHUB_ACTOR"),
  ("job", "GITHUB_JOB"),
  ("action", "GITHUB_ACTION")]

/-- The variables that are taken over as numbers if they are such. -/
def counterVariables : List (String × String) := [
  ("runId", "GITHUB_RUN_ID"),
  ("runNumber", "GITHUB_RUN_NUMBER"),
  ("runAttempt", "GITHUB_RUN_ATTEMPT")]

/-- A variable that has a value also when it is not set. -/
structure Endpoint where
  key : String
  source : String
  otherwise : String

/-- The addresses of the server. -/
def endpoints : List Endpoint := [
  ⟨"serverUrl", "GITHUB_SERVER_URL", "https://github.com"⟩,
  ⟨"apiUrl", "GITHUB_API_URL", "https://api.github.com"⟩,
  ⟨"graphqlUrl", "GITHUB_GRAPHQL_URL", "https://api.github.com/graphql"⟩]

/-- The variable that names the repository. -/
def repositoryVariable : String := "GITHUB_REPOSITORY"

/-- The value of a counter: the number that its text is, or else the text. -/
def counterValue (text : String) : Json :=
  match Decimal.word? text.toList with
  | some n => .ofNat n
  | none => .string text

/-- The members for those of the variables that are set. -/
def membersOf (env : Environment) (value : String → Json) (taken : List (String × String)) :
    Json.Members :=
  taken.filterMap fun (key, name) =>
    (env.get? name).map fun text => (key, value text)

/-- The members for the addresses of the server. -/
def endpointMembers (env : Environment) : Json.Members :=
  endpoints.map fun e => (e.key, .string ((env.get? e.source).getD e.otherwise))

/-! ### The repository -/

/-- The owner and the name of a repository. -/
structure Repository where
  owner : String
  name : String
deriving DecidableEq, Repr

/-- The repository that a name such as `owner/name` stands for. -/
def Repository.ofFullName? (fullName : String) : Option Repository :=
  (Text.cutString? "/" fullName).map fun (owner, name) => ⟨owner, name⟩

/-- The login of the owner or, if there is none, the name of the owner. -/
def ownerOf? (repository : Json) : Option Json :=
  (repository.get? "owner").bind fun owner => owner.get? "login" <|> owner.get? "name"

/-- The repository that an event speaks of. -/
def Repository.ofPayload? (payload : Json) : Option Repository := do
  let repository ← payload.get? "repository"
  let owner ← (← ownerOf? repository).text?
  let name ← repository.textOf? "name"
  return ⟨owner, name⟩

/-- The repository of a run: the variable decides once it is set, also if it names none, else the
event. -/
def repository? (env : Environment) (payload : Json) : Option Repository :=
  match env.get? repositoryVariable with
  | some fullName => Repository.ofFullName? fullName
  | none => Repository.ofPayload? payload

/-- The member for the repository, if it is known. -/
def repositoryMembers (env : Environment) (payload : Json) : Json.Members :=
  match repository? env payload with
  | some r => [("repo", Json.ofTexts [("owner", r.owner), ("repo", r.name)])]
  | none => []

/-! ### Contexts -/

/-- What the context holds about the run. -/
def runMembers (env : Environment) (payload : Json) : Json.Members :=
  ("payload", payload) :: membersOf env .string textVariables ++
    membersOf env counterValue counterVariables ++ endpointMembers env ++
    repositoryMembers env payload

end Context

/-- What placeholders can speak of, without the commit. -/
structure Context where
  members : Json.Members

namespace Context

/-- The context of a run with an environment and the payload of an event. -/
def ofRun (env : Environment) (payload : Json) : Context :=
  ⟨[("env", env.toJson), ("github", .object [("context", .object (runMembers env payload))])]⟩

/-- The context of the message and of the extra embeds. -/
def shared (context : Context) : Json :=
  .object context.members

/-- The context of the embed of one commit. -/
def forCommit (context : Context) (commit : Json) : Json :=
  .object (Json.Members.insert "commit" commit context.members)

end Context

end PushNotice
