import PushNotice.Context
import PushNotice.Placeholder.Lookup
import PushNotice.Proofs.Json.Keys
import PushNotice.Proofs.Text.ByteOrder

/-!
# PushNotice.Proofs.Context.Lookup

**What is found in a context.** Below `env` stands every variable with the value that it was given
last, empty or not; below `github.context.payload` stands the payload, whatever the variables are;
and below `commit` stands a commit, but only in the context of that commit, which is the shared one
in all else. There is one context for what the variables and the payload are: the order in which
the variables come makes no difference, not even to the order of the keys (`ofRun_eq_iff`).

The members of `github.context` are put one behind the other. None of them hides another one, since
their keys are among those of a fixed list without repetition (`map_fst_runMembers_sublist`).
-/

namespace PushNotice

open Placeholder (Path Segment lookup? step?)

/-! ### Environments -/

namespace Environment

/-- The value of a variable in a list of which later ones win. -/
def lastValue? (name : String) (pairs : List (String × String)) : Option String :=
  pairs.reverse.lookup name

theorem find?_texts (name : String) (entries : List (String × String)) :
    Json.Members.find? name (entries.map fun (key, value) => (key, Json.string value)) =
      (NameMap.valueIn? name entries).map Json.string := by
  induction entries with
  | nil => rfl
  | cons entry rest ih =>
    obtain ⟨key, value⟩ := entry
    rw [List.map_cons, Json.Members.find?, NameMap.valueIn?, ih]
    split <;> rfl

/-- A variable is looked up below `env` by its name, whatever kind of segment that is. -/
theorem step?_toJson (env : Environment) (segment : Segment) :
    step? env.toJson segment = (env.bindings.get? segment.memberName).map Json.string := by
  rw [toJson, Json.ofTexts, Placeholder.step?_object]
  exact find?_texts segment.memberName env.bindings.entries

theorem get?_ofPairs (pairs : List (String × String)) (name : String) :
    (ofPairs pairs).bindings.get? name = lastValue? name pairs :=
  NameMap.get?_ofBindings pairs name

theorem ext_get? {env env' : Environment}
    (h : ∀ name, env'.bindings.get? name = env.bindings.get? name) : env' = env :=
  congrArg Environment.mk (NameMap.ext_get? h)

/-- An environment is known by the last value of every variable. -/
theorem ofPairs_eq_iff {pairs pairs' : List (String × String)} :
    ofPairs pairs' = ofPairs pairs ↔ ∀ name, lastValue? name pairs' = lastValue? name pairs := by
  constructor
  · intro same name
    rw [← get?_ofPairs, same, get?_ofPairs]
  · intro same
    refine ext_get? fun name => ?_
    rw [get?_ofPairs, get?_ofPairs, same name]

theorem toJson_injective {env env' : Environment} (h : env'.toJson = env.toJson) : env' = env := by
  refine ext_get? fun name => ?_
  have found := congrArg (fun below => step? below (.key name)) h
  simp only [step?_toJson] at found
  exact Option.map_injective (fun _ _ => Json.string.inj) found

theorem keysOnce_toJson (env : Environment) : env.toJson.KeysOnce := by
  have distinct : env.bindings.names.Nodup :=
    env.bindings.names_ascending.imp String.ne_of_lt
  refine .object ?_ fun member mem => ?_
  · rw [List.map_map]
    exact distinct
  · obtain ⟨entry, -, rfl⟩ := List.mem_map.1 mem
    exact .string entry.2

end Environment

namespace Context

/-! ### The members of the run -/

/-- The keys that there can be below `github.context`. -/
def runKeys : List String :=
  "payload" :: textVariables.map Prod.fst ++ counterVariables.map Prod.fst ++
    endpoints.map Endpoint.key ++ ["repo"]

theorem membersOf_cons (env : Environment) (value : String → Json) (key name : String)
    (taken : List (String × String)) :
    membersOf env value ((key, name) :: taken) =
      ((env.get? name).map fun text => (key, value text)).toList ++ membersOf env value taken := by
  cases found : env.get? name <;> simp [membersOf, found]

theorem map_fst_membersOf_sublist (env : Environment) (value : String → Json)
    (taken : List (String × String)) :
    ((membersOf env value taken).map Prod.fst).Sublist (taken.map Prod.fst) := by
  induction taken with
  | nil => exact .slnil
  | cons entry taken ih =>
    obtain ⟨key, name⟩ := entry
    rw [membersOf_cons]
    cases env.get? name with
    | none => exact ih.cons key
    | some text => exact ih.cons_cons key

/-- A key that is taken from a variable has its value, if the variable is set. -/
theorem find?_membersOf {taken : List (String × String)} (distinct : (taken.map Prod.fst).Nodup)
    (env : Environment) (value : String → Json) (key : String) :
    Json.Members.find? key (membersOf env value taken) =
      (taken.lookup key).bind fun name => (env.get? name).map value := by
  induction taken with
  | nil => rfl
  | cons entry taken ih =>
    obtain ⟨k, name⟩ := entry
    obtain ⟨new, distinctRest⟩ := List.nodup_cons.1 distinct
    rw [membersOf_cons, Json.Members.find?_append]
    by_cases same : k = key
    · -- Behind the first variable for the key there is none that could stand in for it.
      subst same
      have missing : k ∉ (membersOf env value taken).map Prod.fst := fun mem =>
        new ((map_fst_membersOf_sublist env value taken).subset mem)
      rw [Json.Members.find?_of_not_mem missing, Option.or_none, List.lookup_cons_self]
      cases found : env.get? name <;> simp [found, Json.Members.find?]
    · have other : Json.Members.find? key
          ((env.get? name).map fun text => (k, value text)).toList = none := by
        cases env.get? name <;> simp [Json.Members.find?, same]
      rw [other, Option.none_or, ih distinctRest, List.lookup_cons, beq_false_of_ne (Ne.symm same)]

theorem map_fst_repositoryMembers_sublist (env : Environment) (payload : Json) :
    ((repositoryMembers env payload).map Prod.fst).Sublist ["repo"] := by
  unfold repositoryMembers
  cases repository? env payload with
  | none => exact List.nil_sublist _
  | some r => exact .refl _

/-- The keys below `github.context` stand in a fixed order. -/
theorem map_fst_runMembers_sublist (env : Environment) (payload : Json) :
    ((runMembers env payload).map Prod.fst).Sublist runKeys := by
  have texts := map_fst_membersOf_sublist env .string textVariables
  have counters := map_fst_membersOf_sublist env counterValue counterVariables
  have addresses : (endpointMembers env).map Prod.fst = endpoints.map Endpoint.key := rfl
  have repository := map_fst_repositoryMembers_sublist env payload
  simp only [runMembers, List.map_append, List.map_cons, addresses]
  exact (((texts.cons_cons "payload").append counters).append (.refl _)).append repository

theorem keysOnce_membersOf {env : Environment} {value : String → Json}
    {taken : List (String × String)} (h : ∀ text, (value text).KeysOnce) :
    ∀ member ∈ membersOf env value taken, member.2.KeysOnce := by
  intro member mem
  obtain ⟨entry, -, found⟩ := List.mem_filterMap.1 mem
  obtain ⟨text, -, rfl⟩ := Option.map_eq_some_iff.1 found
  exact h text

theorem keysOnce_counterValue (text : String) : (counterValue text).KeysOnce := by
  unfold counterValue
  split
  · exact .number _
  · exact .string text

theorem keysOnce_repositoryMembers (env : Environment) (payload : Json) :
    ∀ member ∈ repositoryMembers env payload, member.2.KeysOnce := by
  unfold repositoryMembers
  cases repository? env payload with
  | none => exact fun member mem => absurd mem List.not_mem_nil
  | some r =>
    refine List.forall_mem_singleton.2 (.object ?_ ?_)
    · show ["owner", "repo"].Nodup
      decide
    · exact List.forall_mem_cons.2 ⟨.string r.owner, List.forall_mem_singleton.2 (.string r.name)⟩

theorem keysOnce_runMembers (env : Environment) {payload : Json} (h : payload.KeysOnce) :
    (Json.object (runMembers env payload)).KeysOnce := by
  have distinct : runKeys.Nodup := by decide
  refine .object (distinct.sublist (map_fst_runMembers_sublist env payload)) ?_
  intro member mem
  simp only [runMembers, List.mem_append, List.mem_cons] at mem
  rcases mem with (((rfl | text) | counter) | address) | repository
  · exact h
  · exact keysOnce_membersOf Json.KeysOnce.string member text
  · exact keysOnce_membersOf keysOnce_counterValue member counter
  · obtain ⟨e, -, rfl⟩ := List.mem_map.1 address
    exact .string _
  · exact keysOnce_repositoryMembers env payload member repository

/-! ### The context of a run -/

/-- What is looked up below `github.context` is looked up among the members of the run. -/
theorem lookup?_run (env : Environment) (payload : Json) (key : String) (path : Path) :
    lookup? (ofRun env payload).shared (.key "github" :: .key "context" :: .key key :: path) =
      (Json.Members.find? key (runMembers env payload)).bind fun below => lookup? below path := rfl

theorem lookup?_payload (env : Environment) (payload : Json) (path : Path) :
    lookup? (ofRun env payload).shared
      (.key "github" :: .key "context" :: .key "payload" :: path) = lookup? payload path := rfl

theorem step?_env (below : Json) (others : Json.Members) :
    step? (.object (("env", below) :: others)) (.key "env") = some below := by
  simp [step?, Json.Members.find?]

theorem keysOnce_shared (env : Environment) {payload : Json} (h : payload.KeysOnce) :
    (ofRun env payload).shared.KeysOnce := by
  have run : (Json.object [("context", .object (runMembers env payload))]).KeysOnce :=
    .object (List.nodup_singleton _) (List.forall_mem_singleton.2 (keysOnce_runMembers env h))
  refine .object ?_ ?_
  · show ["env", "github"].Nodup
    decide
  · exact List.forall_mem_cons.2 ⟨env.keysOnce_toJson, List.forall_mem_singleton.2 run⟩

/-- The context of a run tells its environment and its payload. -/
theorem ofRun_eq_iff {env env' : Environment} {payload payload' : Json} :
    ofRun env' payload' = ofRun env payload ↔ env' = env ∧ payload' = payload := by
  constructor
  · intro same
    have members : env'.toJson = env.toJson :=
      Option.some.inj (congrArg (fun context : Context => step? context.shared (.key "env")) same)
    have event : payload' = payload := by
      have found := congrArg (fun context : Context => lookup? context.shared
        [.key "github", .key "context", .key "payload"]) same
      simpa only [lookup?_payload, Placeholder.lookup?_nil, Option.some.injEq] using found
    exact ⟨Environment.toJson_injective members, event⟩
  · intro ⟨sameEnv, samePayload⟩
    rw [sameEnv, samePayload]

/-! ### The context of a commit -/

/-- The context of a commit has the commit besides what the shared one has. -/
theorem step?_forCommit (context : Context) (commit : Json) (segment : Segment) :
    step? (context.forCommit commit) segment =
      if segment.memberName = "commit" then some commit else step? context.shared segment := by
  rw [forCommit, shared, Placeholder.step?_object, Placeholder.step?_object,
    Json.Members.find?_insert]

theorem lookup?_forCommit (context : Context) (commit : Json) (path : Path) :
    lookup? (context.forCommit commit) (.key "commit" :: path) = lookup? commit path := by
  have found : step? (context.forCommit commit) (.key "commit") = some commit :=
    (step?_forCommit context commit _).trans (if_pos rfl)
  rw [Placeholder.lookup?_cons, found, Option.bind_some]

/-! ### Faithful contexts -/

/-- The context holds the variables and the payload as they are, and it holds a commit only if it
is the context of that commit. -/
structure Faithful (pairs : List (String × String)) (payload : Json) (context : Context) :
    Prop where
  /-- Below `env` a variable has the value that it was given last. -/
  env : ∀ segment, lookup? context.shared [.key "env", segment] =
    (Environment.lastValue? segment.memberName pairs).map .string
  /-- The variables stand in the order of the bytes of their names. -/
  order : ∃ members, lookup? context.shared [.key "env"] = some (.object members) ∧
    (members.map fun member => Text.encode member.1).Pairwise (· < ·)
  /-- The payload is found as it is, whatever the variables are. -/
  event : ∀ path, lookup? context.shared
    (.key "github" :: .key "context" :: .key "payload" :: path) = lookup? payload path
  /-- There is no commit in what all contexts share. -/
  noCommit : ∀ path, lookup? context.shared (.key "commit" :: path) = none
  /-- In the context of a commit there is that commit. -/
  commit : ∀ commit path,
    lookup? (context.forCommit commit) (.key "commit" :: path) = lookup? commit path
  /-- Apart from the commit, the context of a commit is the shared one. -/
  others : ∀ commit segment path, segment.memberName ≠ "commit" →
    lookup? (context.forCommit commit) (segment :: path) = lookup? context.shared (segment :: path)
  /-- No key stands twice in an object, so that no member hides another one. -/
  keys : payload.KeysOnce → context.shared.KeysOnce

/-- **Contexts are faithful and canonical.** The context of a run holds its variables and its
payload as they are, and two runs have the same context, with the same order of keys, exactly if
every variable has the same last value and the payload is the same. -/
theorem ofRun_faithful (pairs : List (String × String)) (payload : Json) :
    (ofRun (.ofPairs pairs) payload).Faithful pairs payload ∧
    ∀ pairs' payload', ofRun (.ofPairs pairs') payload' = ofRun (.ofPairs pairs) payload ↔
      (∀ name, Environment.lastValue? name pairs' = Environment.lastValue? name pairs) ∧
        payload' = payload := by
  constructor
  · constructor
    case env =>
      intro segment
      have found : step? (ofRun (.ofPairs pairs) payload).shared (.key "env") =
          some (Environment.ofPairs pairs).toJson := step?_env _ _
      rw [Placeholder.lookup?_cons, found, Option.bind_some, Placeholder.lookup?_cons,
        Environment.step?_toJson, Environment.get?_ofPairs]
      exact Option.bind_fun_some _
    case order =>
      refine ⟨_, rfl, ?_⟩
      have ascending := (Environment.ofPairs pairs).bindings.sorted
      rw [List.map_map]
      exact List.pairwise_map.2 (ascending.imp fun less => Text.encode_lt_encode less)
    case event => exact lookup?_payload _ payload
    case noCommit => exact fun path => rfl
    case commit => exact lookup?_forCommit _
    case others =>
      intro commit segment path other
      rw [Placeholder.lookup?_cons, Placeholder.lookup?_cons, step?_forCommit, if_neg other]
    case keys => exact keysOnce_shared _
  · intro pairs' payload'
    rw [ofRun_eq_iff, Environment.ofPairs_eq_iff]

/-- A variable that is given twice, an empty one, and a payload with the keys of a context: the
variables in another order give the same context. -/
theorem ofRun_faithful_repeated :
    let pairs := [("HOME", "/"), ("github", ""), ("HOME", "/root")]
    let payload := Json.object [("commit", .string "none"), ("env", .object [])]
    let context := ofRun (.ofPairs pairs) payload
    lookup? context.shared [.key "env", .key "HOME"] = some (.string "/root") ∧
    lookup? context.shared [.key "env", .key "github"] = some (.string "") ∧
    lookup? context.shared [.key "env", .key "PATH"] = none ∧
    lookup? context.shared [.key "commit"] = none ∧
    lookup? (context.forCommit .null) [.key "env", .key "HOME"] = some (.string "/root") ∧
    ofRun (.ofPairs [("github", ""), ("HOME", "/root")]) payload = context := by
  intro pairs payload context
  obtain ⟨faithful, canonical⟩ := ofRun_faithful pairs payload
  have home := faithful.env (.key "HOME")
  have sameValues : ∀ name, Environment.lastValue? name [("github", ""), ("HOME", "/root")] =
      Environment.lastValue? name pairs := by
    intro name
    by_cases atHome : name = "HOME"
    · subst atHome
      rfl
    · simp [Environment.lastValue?, pairs, List.lookup_cons, beq_false_of_ne atHome]
  exact ⟨home, faithful.env (.key "github"), faithful.env (.key "PATH"),
    faithful.noCommit [],
    (faithful.others .null (.key "env") [.key "HOME"] (by decide)).trans home,
    (canonical _ payload).2 ⟨sameValues, rfl⟩⟩

end Context

end PushNotice
