import Mathlib.Data.List.Infix
import PushNotice.Proofs.Context.Lookup

/-!
# PushNotice.Proofs.Context.Repository

**Where the repository of a run comes from.** There are two sources: a variable that holds the
owner and the name with a slash between them, and the payload, which has a name and an owner that
has a login or a name. What is found was always named by one of them (`named_of_repository?`). But
not all that is named is found: a variable that is set and no full name keeps the payload from being
asked, and a login that is no text keeps the name of the owner from being asked. These are the only
ways to miss a repository (`repository_found_iff`).
-/

namespace PushNotice.Context

open Placeholder (lookup?)

/-! ### Sources -/

/-- The text is the owner, which has no slash, a slash, and the name. -/
def Repository.IsFullName (r : Repository) (text : String) : Prop :=
  '/' ∉ r.owner.toList ∧ text = r.owner ++ "/" ++ r.name

/-- The repository as a value. -/
def Repository.toJson (r : Repository) : Json :=
  Json.ofTexts [("owner", r.owner), ("repo", r.name)]

/-- Where the repository stands in the context of a run. -/
def repositoryPath : Placeholder.Path := [.key "github", .key "context", .key "repo"]

/-- The payload has a repository with a name and an owner. -/
structure Told (payload repository owner : Json) (name : String) : Prop where
  found : payload.get? "repository" = some repository
  named : repository.textOf? "name" = some name
  owned : repository.get? "owner" = some owner

/-- The payload names the repository: by its name and the login of the owner or, if the login is
not a text, the name of the owner. -/
inductive PayloadNames (payload : Json) (r : Repository) : Prop where
  | login {repository owner : Json} (told : Told payload repository owner r.name)
      (isText : owner.textOf? "login" = some r.owner)
  | ownerName {repository owner : Json} (told : Told payload repository owner r.name)
      (noLogin : owner.textOf? "login" = none) (isText : owner.textOf? "name" = some r.owner)

/-- A source of the run names the repository: the variable if there is a slash in it, or else the
payload. -/
inductive Named (env : Environment) (payload : Json) (r : Repository) : Prop where
  | byVariable {text : String} (bound : env.bindings.get? repositoryVariable = some text)
      (full : r.IsFullName text)
  | byPayload
      (noSlash : ∀ text, env.bindings.get? repositoryVariable = some text → '/' ∉ text.toList)
      (names : PayloadNames payload r)

/-- The payload names a repository but is not asked for it: the variable has a value without a
slash, or it has none, and the owner has a login that is not a text. -/
inductive Blocked (env : Environment) (payload : Json) : Prop where
  | byVariable {text : String} {r : Repository} (bound : env.get? repositoryVariable = some text)
      (noSlash : '/' ∉ text.toList) (names : PayloadNames payload r)
  | byLogin {repository owner value : Json} {r : Repository}
      (unbound : env.get? repositoryVariable = none) (told : Told payload repository owner r.name)
      (login : owner.get? "login" = some value) (noText : value.text? = none)
      (isText : owner.textOf? "name" = some r.owner)

variable {env : Environment} {payload repository owner : Json} {r : Repository}

/-! ### Full names -/

theorem Repository.ofFullName?_eq_some_iff {text : String} :
    ofFullName? text = some r ↔ r.IsFullName text := by
  have parts : ofFullName? text = some r ↔ Text.cutString? "/" text = some (r.owner, r.name) := by
    unfold ofFullName?
    cases Text.cutString? "/" text with
    | none => simp
    | some cut =>
      obtain ⟨owner, name⟩ := r
      simp [Prod.ext_iff]
  have first : Text.FirstAtEnd "/".toList r.owner.toList ↔ '/' ∉ r.owner.toList :=
    Text.firstAtEnd_singleton
  rw [parts, Text.cutString?_eq_some_iff, first, IsFullName, and_comm]

theorem Repository.ofFullName?_eq_none_iff {text : String} :
    ofFullName? text = none ↔ '/' ∉ text.toList := by
  have mark : "/".toList <:+: text.toList ↔ '/' ∈ text.toList := List.singleton_infix_iff _ _
  rw [ofFullName?, Option.map_eq_none_iff, Text.cutString?_eq_none_iff, mark]

theorem Repository.IsFullName.ne_empty {text : String} (h : r.IsFullName text) : text ≠ "" := by
  intro empty
  have slash : '/' ∈ text.toList := by
    rw [h.2]
    simp
  simp [empty] at slash

/-! ### Payloads -/

/-- The payload is asked for a name, and for a login before the name of the owner: the login counts
as soon as it is there. -/
theorem Repository.ofPayload?_eq_some_iff :
    ofPayload? payload = some r ↔ ∃ repository owner, Told payload repository owner r.name ∧
      (owner.get? "login" <|> owner.get? "name").bind Json.text? = some r.owner := by
  obtain ⟨text, name⟩ := r
  constructor
  · intro h
    obtain ⟨repository, found, h⟩ := Option.bind_eq_some_iff.1 h
    obtain ⟨value, answer, h⟩ := Option.bind_eq_some_iff.1 h
    obtain ⟨_, isText, h⟩ := Option.bind_eq_some_iff.1 h
    obtain ⟨_, named, h⟩ := Option.bind_eq_some_iff.1 h
    obtain ⟨rfl, rfl⟩ := Repository.mk.inj (Option.some.inj h)
    obtain ⟨owner, owned, asked⟩ := Option.bind_eq_some_iff.1 answer
    exact ⟨repository, owner, ⟨found, named, owned⟩,
      Option.bind_eq_some_iff.2 ⟨value, asked, isText⟩⟩
  · intro ⟨repository, owner, told, answer⟩
    obtain ⟨value, asked, isText⟩ := Option.bind_eq_some_iff.1 answer
    have owners : ownerOf? repository = some value := by
      rw [ownerOf?, told.owned]
      exact asked
    simp [ofPayload?, told.found, told.named, owners, isText]

/-- What the payload is found to tell is what it names. -/
theorem payloadNames_of_ofPayload? (h : Repository.ofPayload? payload = some r) :
    PayloadNames payload r := by
  obtain ⟨repository, owner, told, asked⟩ := Repository.ofPayload?_eq_some_iff.1 h
  cases login : owner.get? "login" with
  | some value =>
    refine .login told ?_
    rw [Json.textOf?, login]
    simpa [login] using asked
  | none =>
    refine .ownerName told ?_ ?_
    · rw [Json.textOf?, login, Option.bind_none]
    · rw [Json.textOf?]
      simpa [login] using asked

/-- What the payload names is found, or the owner has a login that is not a text. -/
theorem PayloadNames.ofPayload?_or (h : PayloadNames payload r) :
    Repository.ofPayload? payload = some r ∨
      ∃ repository owner value, Told payload repository owner r.name ∧
        owner.get? "login" = some value ∧ value.text? = none ∧
          owner.textOf? "name" = some r.owner := by
  cases h with
  | login told isText =>
    have login := Json.textOf?_eq_some_iff.1 isText
    refine .inl (Repository.ofPayload?_eq_some_iff.2 ⟨_, _, told, ?_⟩)
    rw [login]
    rfl
  | @ownerName repository owner told noLogin isText =>
    cases login : owner.get? "login" with
    | none =>
      refine .inl (Repository.ofPayload?_eq_some_iff.2 ⟨_, _, told, ?_⟩)
      rw [login]
      exact isText
    | some value =>
      have noText : value.text? = none := by
        rwa [Json.textOf?, login, Option.bind_some] at noLogin
      exact .inr ⟨repository, owner, value, told, login, noText, isText⟩

/-- A login that is not a text ends the search. -/
theorem Told.ofPayload?_eq_none {name : String} {value : Json}
    (told : Told payload repository owner name) (login : owner.get? "login" = some value)
    (noText : value.text? = none) : Repository.ofPayload? payload = none := by
  cases h : Repository.ofPayload? payload with
  | none => rfl
  | some r =>
    obtain ⟨repository', owner', told', asked⟩ := Repository.ofPayload?_eq_some_iff.1 h
    obtain rfl : repository = repository' := Option.some.inj (told.found.symm.trans told'.found)
    obtain rfl : owner = owner' := Option.some.inj (told.owned.symm.trans told'.owned)
    simp [login, noText] at asked

/-! ### Runs -/

/-- The context holds the repository, if the run has one. -/
theorem lookup?_repository (env : Environment) (payload : Json) :
    lookup? (ofRun env payload).shared repositoryPath =
      (repository? env payload).map Repository.toJson := by
  have texts : Json.Members.find? "repo" (membersOf env .string textVariables) = none :=
    find?_membersOf (by decide) env .string "repo"
  have counters : Json.Members.find? "repo" (membersOf env counterValue counterVariables) = none :=
    find?_membersOf (by decide) env counterValue "repo"
  have addresses : Json.Members.find? "repo" (endpointMembers env) = none := rfl
  have repository : Json.Members.find? "repo" (repositoryMembers env payload) =
      (repository? env payload).map Repository.toJson := by
    unfold repositoryMembers
    cases repository? env payload <;> rfl
  have found : Json.Members.find? "repo" (runMembers env payload) =
      (repository? env payload).map Repository.toJson := by
    simp [runMembers, Json.Members.find?_append, Json.Members.find?, texts, counters, addresses,
      repository]
  rw [repositoryPath, lookup?_run, found]
  exact Option.bind_fun_some _

/-- **What is found was named.** -/
theorem named_of_repository? (h : repository? env payload = some r) : Named env payload r := by
  unfold repository? at h
  split at h
  · next text bound =>
    have full := Repository.ofFullName?_eq_some_iff.1 h
    exact .byVariable (Environment.get?_eq_some_iff.1 bound).1 full
  · next unbound =>
    refine .byPayload ?_ (payloadNames_of_ofPayload? h)
    intro text bound slash
    have empty : text = "" := Environment.get?_eq_none_iff.1 unbound text bound
    simp [empty] at slash

/-- What is named is found, if nothing keeps a source from being asked. -/
theorem Named.repository?_eq (h : Named env payload r) (free : ¬ Blocked env payload) :
    repository? env payload = some r := by
  unfold repository?
  cases h with
  | byVariable bound full =>
    rw [Environment.get?_eq_some_iff.2 ⟨bound, full.ne_empty⟩]
    exact Repository.ofFullName?_eq_some_iff.2 full
  | byPayload noSlash names =>
    cases bound : env.get? repositoryVariable with
    | some text =>
      have without := noSlash text (Environment.get?_eq_some_iff.1 bound).1
      exact absurd (.byVariable bound without names) free
    | none =>
      rcases names.ofPayload?_or with found | ⟨_, _, _, told, login, noText, isText⟩
      · exact found
      · exact absurd (.byLogin bound told login noText isText) free

/-- Where a source is not asked, nothing is found. -/
theorem Blocked.repository?_eq_none (h : Blocked env payload) : repository? env payload = none := by
  unfold repository?
  cases h with
  | byVariable bound noSlash _ =>
    rw [bound]
    exact Repository.ofFullName?_eq_none_iff.2 noSlash
  | byLogin unbound told login noText _ =>
    rw [unbound]
    exact told.ofPayload?_eq_none login noText

theorem Blocked.exists_named (h : Blocked env payload) : ∃ r, Named env payload r := by
  cases h with
  | @byVariable text r bound noSlash names =>
    refine ⟨r, .byPayload ?_ names⟩
    intro text' bound'
    obtain rfl : text = text' :=
      Option.some.inj ((Environment.get?_eq_some_iff.1 bound).1.symm.trans bound')
    exact noSlash
  | @byLogin repository owner value r unbound told login noText isText =>
    have noLogin : owner.textOf? "login" = none := by
      rw [Json.textOf?, login, Option.bind_some, noText]
    refine ⟨r, .byPayload ?_ (.ownerName told noLogin isText)⟩
    intro text bound
    simp [Environment.get?_eq_none_iff.1 unbound text bound]

/-- The run has what is named, and nothing if nothing is named. -/
structure FindsNamed (env : Environment) (payload : Json) : Prop where
  named : ∀ r, Named env payload r →
    lookup? (ofRun env payload).shared repositoryPath = some r.toJson
  unnamed : (∀ r, ¬ Named env payload r) →
    lookup? (ofRun env payload).shared repositoryPath = none

/-- **A run has the repository that its sources name, unless a source is not asked.** Then one is
named, but the run has none. -/
theorem repository_found_iff (env : Environment) (payload : Json) :
    (FindsNamed env payload ↔ ¬ Blocked env payload) ∧
    (Blocked env payload → (∃ r, Named env payload r) ∧
      lookup? (ofRun env payload).shared repositoryPath = none) := by
  have lost : Blocked env payload → (∃ r, Named env payload r) ∧
      lookup? (ofRun env payload).shared repositoryPath = none := by
    intro blocked
    refine ⟨blocked.exists_named, ?_⟩
    rw [lookup?_repository, blocked.repository?_eq_none, Option.map_none]
  refine ⟨⟨?_, ?_⟩, lost⟩
  · intro finds blocked
    obtain ⟨⟨r, named⟩, missing⟩ := lost blocked
    rw [finds.named r named] at missing
    simp at missing
  · intro free
    constructor
    case named =>
      intro r named
      rw [lookup?_repository, named.repository?_eq free, Option.map_some]
    case unnamed =>
      intro nobody
      have nothing : repository? env payload = none :=
        Option.eq_none_iff_forall_ne_some.2 fun r found => nobody r (named_of_repository? found)
      rw [lookup?_repository, nothing, Option.map_none]

/-- The variable is empty and the owner has no login: the name of the owner is found. -/
theorem repository_found_iff_owner_name :
    let env := Environment.ofPairs [("GITHUB_REPOSITORY", "")]
    let owner := Json.object [("name", .string "octo-org")]
    let repository := Json.object [("name", .string "widgets"), ("owner", owner)]
    let payload := Json.object [("repository", repository)]
    ¬ Blocked env payload ∧
    lookup? (ofRun env payload).shared repositoryPath =
      some (Repository.toJson ⟨"octo-org", "widgets"⟩) := by
  intro env owner repository payload
  have unbound : env.get? repositoryVariable = none := rfl
  have told : Told payload repository owner "widgets" := ⟨rfl, rfl, rfl⟩
  have free : ¬ Blocked env payload := by
    intro blocked
    have found : repository? env payload = some ⟨"octo-org", "widgets"⟩ := rfl
    simp [blocked.repository?_eq_none] at found
  have named : Named env payload ⟨"octo-org", "widgets"⟩ := by
    refine .byPayload ?_ (.ownerName told rfl rfl)
    intro text bound
    simp [Environment.get?_eq_none_iff.1 unbound text bound]
  exact ⟨free, ((repository_found_iff env payload).1.2 free).named _ named⟩

/-- A variable without a slash, and a login that is `null`: the payload names a repository, but the
run has none. -/
theorem repository_named_not_found :
    let login := Json.object [("login", .string "octo-org")]
    let ownerName := Json.object [("login", .null), ("name", .string "octo-org")]
    let payload := fun owner => Json.object
      [("repository", .object [("name", .string "widgets"), ("owner", owner)])]
    let bare := Environment.ofPairs [("GITHUB_REPOSITORY", "widgets")]
    let empty := Environment.ofPairs []
    (Named bare (payload login) ⟨"octo-org", "widgets"⟩ ∧
      lookup? (ofRun bare (payload login)).shared repositoryPath = none) ∧
    (Named empty (payload ownerName) ⟨"octo-org", "widgets"⟩ ∧
      lookup? (ofRun empty (payload ownerName)).shared repositoryPath = none) := by
  intro login ownerName payload bare empty
  have named : Named bare (payload login) ⟨"octo-org", "widgets"⟩ := by
    refine .byPayload ?_ (.login ⟨rfl, rfl, rfl⟩ rfl)
    intro text bound
    obtain rfl : "widgets" = text := Option.some.inj bound
    decide
  have named' : Named empty (payload ownerName) ⟨"octo-org", "widgets"⟩ := by
    refine .byPayload ?_ (.ownerName ⟨rfl, rfl, rfl⟩ rfl rfl)
    intro text bound
    exact absurd bound (Option.some_ne_none text).symm
  exact ⟨⟨named, rfl⟩, named', rfl⟩

end PushNotice.Context
