import PushNotice.Proofs.Context.Lookup
import PushNotice.Proofs.Decimal.Word
import PushNotice.Proofs.Placeholder.Printing

/-!
# PushNotice.Proofs.Context.Counters

**Counters keep their value.** The variables that count runs are taken over as numbers if they are
numerals of 64 bits, and as texts else. What a placeholder shows of a number is its canonical
numeral, so a numeral is shown as it was written exactly if it was canonical; all other texts are
shown as they are, those of numbers that are too large among them (`counter_kept`).

A counter is found in the context because no other member of `github.context` has its key
(`lookup?_counter`).
-/

namespace PushNotice

open Decimal (WordForm numeral)
open Placeholder (Path lookup? textAt pathResolver)

/-! ### Values of counters -/

namespace Context

/-- A numeral counts as its number. -/
theorem counterValue_text (form : WordForm) :
    counterValue (String.ofList form.text) = .ofNat form.value := by
  have read : Decimal.word? form.text = some form.value :=
    Decimal.word?_eq_some_iff.2 ⟨form, rfl, rfl⟩
  rw [counterValue, String.toList_ofList, read]

/-- What is no numeral counts as a text. -/
theorem counterValue_of_not_numeral {text : String}
    (h : ∀ form : WordForm, form.text ≠ text.toList) :
    counterValue text = .string text := by
  have unread : Decimal.word? text.toList = none := by
    refine Option.eq_none_iff_forall_ne_some.2 fun n read => ?_
    obtain ⟨form, written, -⟩ := Decimal.word?_eq_some_iff.1 read
    exact h form written
  rw [counterValue, unread]

end Context

/-- A number is shown as its canonical numeral. -/
theorem Placeholder.valueText_ofNat (n : Nat) : valueText (.ofNat n) = numeral n := by
  rw [numeral, Nat.toString_eq_ofList_toDigits]
  rfl

namespace Context

/-! ### Where a counter stands -/

/-- The path to what the context holds about the run under a key. -/
def runPath (key : String) : Path := [.key "github", .key "context", .key key]

/-- The expression of a placeholder for it. -/
def runExpression (key : String) : String := "github.context." ++ key

section Counter

variable {key name : String} (counter : (key, name) ∈ counterVariables)

include counter

theorem parse_runExpression : Path.parse (runExpression key) = .ok (runPath key) := by
  have parsed : ∀ c ∈ counterVariables, Path.parse (runExpression c.1) = .ok (runPath c.1) := by
    decide +kernel
  exact parsed (key, name) counter

/-- The context holds the value of a counter, if its variable is set. -/
theorem lookup?_counter (env : Environment) (payload : Json) :
    lookup? (ofRun env payload).shared (runPath key) = (env.get? name).map counterValue := by
  have asked : ∀ c ∈ counterVariables, counterVariables.lookup c.1 = some c.2 ∧
      textVariables.lookup c.1 = none ∧
      c.1 ∉ "repo" :: "payload" :: endpoints.map Endpoint.key := by decide
  obtain ⟨own, noText, others⟩ := asked (key, name) counter
  simp only [List.mem_cons, not_or] at others
  obtain ⟨notRepository, notPayload, notAddress⟩ := others
  have texts : Json.Members.find? key (membersOf env .string textVariables) = none := by
    rw [find?_membersOf (by decide), noText, Option.bind_none]
  have counters : Json.Members.find? key (membersOf env counterValue counterVariables) =
      (env.get? name).map counterValue := by
    rw [find?_membersOf (by decide), own, Option.bind_some]
  have addresses : Json.Members.find? key (endpointMembers env) = none :=
    Json.Members.find?_of_not_mem notAddress
  have repository : Json.Members.find? key (repositoryMembers env payload) = none := by
    refine Json.Members.find?_of_not_mem fun mem => notRepository ?_
    exact List.mem_singleton.1 ((map_fst_repositoryMembers_sublist env payload).subset mem)
  have found : Json.Members.find? key (runMembers env payload) =
      (env.get? name).map counterValue := by
    simp [runMembers, Json.Members.find?_append, Json.Members.find?, Ne.symm notPayload, texts,
      counters, addresses, repository]
  rw [runPath, lookup?_run, found]
  exact Option.bind_fun_some _

end Counter

/-- The context is what all notices of a run share, or that of one commit. -/
def IsOfRun (env : Environment) (payload context : Json) : Prop :=
  context = (ofRun env payload).shared ∨ ∃ commit, context = (ofRun env payload).forCommit commit

/-- What the context holds about a run is the same for each of its commits. -/
theorem IsOfRun.lookup?_runPath {env : Environment} {payload context : Json}
    (h : IsOfRun env payload context) (key : String) :
    lookup? context (runPath key) = lookup? (ofRun env payload).shared (runPath key) := by
  rcases h with rfl | ⟨commit, rfl⟩
  · rfl
  · rw [runPath, Placeholder.lookup?_cons, Placeholder.lookup?_cons, step?_forCommit,
      if_neg (by decide)]

/-! ### Counters -/

/-- A counter is held and shown as its variable says. -/
structure KeepsCounter (setting : Option String) (held : Option Json) (shown : String) : Prop where
  /-- A variable that is not set, or is empty, leaves nothing. -/
  unset : setting = none ∨ setting = some "" → held = none ∧ shown = ""
  /-- A numeral is held as its number and shown as the canonical numeral of it. -/
  number : ∀ form : WordForm, setting = some (String.ofList form.text) →
    held = some (.ofNat form.value) ∧ shown = numeral form.value
  /-- What is shown of a numeral is still a numeral of the same number. -/
  value : ∀ form : WordForm, setting = some (String.ofList form.text) →
    Decimal.word? shown.toList = some form.value
  /-- A numeral is shown as it was written exactly if it was canonical. -/
  written : ∀ form : WordForm, setting = some (String.ofList form.text) →
    (shown = String.ofList form.text ↔ form.IsCanonical)
  /-- Any other text is held and shown as it is. -/
  other : ∀ text, setting = some text → text ≠ "" → (∀ form : WordForm, form.text ≠ text.toList) →
    held = some (.string text) ∧ shown = text

/-- **Counters keep their value.** Nothing is shown of a counter that is not set; a numeral below
`2 ^ 64` is held as a number and shown canonically, which is as it was written exactly if it had
neither a sign nor a superfluous zero; any other text is held and shown as it is. -/
theorem counter_kept {env : Environment} {payload context : Json} {key name : String}
    (counter : (key, name) ∈ counterVariables) (run : IsOfRun env payload context) :
    ∃ shown, pathResolver context (runExpression key) = .ok shown ∧
      KeepsCounter (env.bindings.get? name) (lookup? context (runPath key)) shown := by
  refine ⟨_, Placeholder.pathResolver_of_parse (parse_runExpression counter), ?_⟩
  rw [textAt, run.lookup?_runPath, lookup?_counter counter]
  have ofNumeral : ∀ form : WordForm, env.bindings.get? name = some (String.ofList form.text) →
      (env.get? name).map counterValue = some (.ofNat form.value) := by
    intro form set
    have nonempty : String.ofList form.text ≠ "" := by
      simpa [← String.toList_inj] using form.text_ne_nil
    rw [Environment.get?_eq_some_iff.2 ⟨set, nonempty⟩, Option.map_some, counterValue_text]
  have shown : ∀ form : WordForm, env.bindings.get? name = some (String.ofList form.text) →
      (((env.get? name).map counterValue).map Placeholder.valueText).getD "" =
        numeral form.value := by
    intro form set
    rw [ofNumeral form set, Option.map_some, Option.getD_some, Placeholder.valueText_ofNat]
  constructor
  case unset =>
    intro unset
    have nothing : env.get? name = none := by
      refine Environment.get?_eq_none_iff.2 fun value set => ?_
      rcases unset with missing | empty
      · simp [missing] at set
      · exact Option.some.inj (set.symm.trans empty)
    rw [nothing]
    exact ⟨rfl, rfl⟩
  case number => exact fun form set => ⟨ofNumeral form set, shown form set⟩
  case value =>
    intro form set
    rw [shown form set]
    exact Decimal.word?_numeral form.bounded
  case written =>
    intro form set
    rw [shown form set, ← Decimal.WordForm.numeral_eq_text_iff, ← String.toList_inj,
      String.toList_ofList]
  case other =>
    intro text set nonempty notNumeral
    rw [Environment.get?_eq_some_iff.2 ⟨set, nonempty⟩, Option.map_some,
      counterValue_of_not_numeral notNumeral]
    exact ⟨rfl, rfl⟩

/-- The greatest number of 64 bits, a number with a sign and zeros in front of it, and the first
number that is too large. -/
theorem counter_kept_edges :
    let env := Environment.ofPairs [("GITHUB_RUN_ID", "18446744073709551615"),
      ("GITHUB_RUN_NUMBER", "+007"), ("GITHUB_RUN_ATTEMPT", "18446744073709551616")]
    let shared := (ofRun env .null).shared
    let commit := (ofRun env .null).forCommit (.object [])
    (lookup? shared (runPath "runId") = some (.ofNat 18446744073709551615) ∧
      pathResolver shared (runExpression "runId") = .ok "18446744073709551615") ∧
    (lookup? commit (runPath "runNumber") = some (.ofNat 7) ∧
      pathResolver commit (runExpression "runNumber") = .ok "7") ∧
    (lookup? shared (runPath "runAttempt") = some (.string "18446744073709551616") ∧
      pathResolver shared (runExpression "runAttempt") = .ok "18446744073709551616") := by
  intro env shared commit
  have numeralOf : ∀ text n, Decimal.word? text.toList = some n →
      ∃ form : WordForm, String.ofList form.text = text ∧ form.value = n := by
    intro text n read
    obtain ⟨form, written, value⟩ := Decimal.word?_eq_some_iff.1 read
    exact ⟨form, by rw [written, String.ofList_toList], value⟩
  have tooLarge : ∀ form : WordForm, form.text ≠ "18446744073709551616".toList := by
    intro form written
    have unread : Decimal.word? "18446744073709551616".toList = none := by decide
    rw [Decimal.word?_eq_some_iff.2 ⟨form, written, rfl⟩] at unread
    exact Option.some_ne_none _ unread
  have inShared : IsOfRun env .null shared := .inl rfl
  have inCommit : IsOfRun env .null commit := .inr ⟨_, rfl⟩
  have bound : ∀ name value, Environment.lastValue? name
      [("GITHUB_RUN_ID", "18446744073709551615"), ("GITHUB_RUN_NUMBER", "+007"),
        ("GITHUB_RUN_ATTEMPT", "18446744073709551616")] = some value →
      env.bindings.get? name = some value :=
    fun name value last => (Environment.get?_ofPairs _ name).trans last
  refine ⟨?_, ?_, ?_⟩
  · have counter : ("runId", "GITHUB_RUN_ID") ∈ counterVariables := by decide
    obtain ⟨shown, read, kept⟩ := counter_kept counter inShared
    obtain ⟨form, written, value⟩ :=
      numeralOf "18446744073709551615" 18446744073709551615 (by decide)
    obtain ⟨held, canonical⟩ := kept.number form (written ▸ bound _ _ rfl)
    rw [value] at held canonical
    have digits : numeral 18446744073709551615 = "18446744073709551615" := by decide +kernel
    exact ⟨held, by rw [read, canonical, digits]⟩
  · have counter : ("runNumber", "GITHUB_RUN_NUMBER") ∈ counterVariables := by decide
    obtain ⟨shown, read, kept⟩ := counter_kept counter inCommit
    obtain ⟨form, written, value⟩ := numeralOf "+007" 7 (by decide)
    obtain ⟨held, canonical⟩ := kept.number form (written ▸ bound _ _ rfl)
    rw [value] at held canonical
    have digits : numeral 7 = "7" := by decide +kernel
    exact ⟨held, by rw [read, canonical, digits]⟩
  · have counter : ("runAttempt", "GITHUB_RUN_ATTEMPT") ∈ counterVariables := by decide
    obtain ⟨shown, read, kept⟩ := counter_kept counter inShared
    obtain ⟨held, rfl⟩ := kept.other _ (bound _ _ rfl) (by decide) tooLarge
    exact ⟨held, read⟩

end Context

end PushNotice
