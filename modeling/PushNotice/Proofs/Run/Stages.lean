import Mathlib
import PushNotice.Proofs.Delivery.Reply
import PushNotice.Proofs.Run.Faults
import PushNotice.Proofs.Run.Parts

/-!
# PushNotice.Proofs.Run.Stages

**The first stage that fails decides.** Before a notice is delivered, sending goes through seven
stages. Each of them can be looked at by itself (`Stage.fault?`): what it checks are the inputs of
the run, the files, and the merged options if the file of options could be read. Sending ends with
the fault of the first stage that fails, as if the others were not there, and makes a request only
if none fails (`firstFault?_eq`). That a client can be built is no stage, as no input of the run has
a part in it; here it is a hypothesis.
-/

namespace PushNotice

/-- The fault that there is in the place of a value. -/
def faultOf : Except Fault α → Option Fault
  | .error fault => some fault
  | .ok _ => none

@[simp] theorem faultOf_error (fault : Fault) :
    faultOf (.error fault : Except Fault α) = some fault := rfl

@[simp] theorem faultOf_ok (value : α) : faultOf (.ok value : Except Fault α) = none := rfl

theorem faultOf_eq_some_iff {result : Except Fault α} {fault : Fault} :
    faultOf result = some fault ↔ result = .error fault := by
  cases result <;> simp

namespace Run

/-! ### Stages -/

/-- The stages of sending before the delivery. -/
inductive Stage where
  | optionsFile
  | validation
  | webhook
  | templates
  | includePatterns
  | excludePatterns
  | event
deriving DecidableEq, Repr

/-- The order in which the stages are taken. -/
def Stage.order : List Stage :=
  [.optionsFile, .validation, .webhook, .templates, .includePatterns, .excludePatterns, .event]

theorem Stage.mem_order (stage : Stage) : stage ∈ order := by
  cases stage <;> decide

/-- The exit code of a run that a stage ends. -/
def Stage.exitCode : Stage → Nat
  | .event => 2
  | _ => 1

section

variable (files : Files.Source) (run : Run)

/-- The options in the file that a run names, or the initial ones. -/
def givenOptions : Except Fault Options :=
  match run.optionsPath with
  | none => .ok Options.initial
  | some path => readOptions files path

/-- The options with the inputs of the run put over them, whether they are valid or not. -/
def mergedOptions : Except Fault Options :=
  (run.givenOptions files).map fun o => o.apply run.overrides

/-- The fault that a check of the merged options finds. -/
def mergedFault? (check : Options → Except Fault α) : Option Fault :=
  match run.mergedOptions files with
  | .ok o => faultOf (check o)
  | .error _ => none

/-- The fault of a stage, whatever the others find. -/
def Stage.fault? : Stage → Option Fault
  | .optionsFile => faultOf (run.givenOptions files)
  | .validation => run.mergedFault? files Options.validate
  | .webhook => run.mergedFault? files Webhook.ofOptions
  | .templates => faultOf (registry files run.templatesPath).result
  | .includePatterns => run.mergedFault? files fun o =>
      Commit.compilePatterns Commit.includeOption o.includeCommits
  | .excludePatterns => run.mergedFault? files fun o =>
      Commit.compilePatterns Commit.excludeOption o.excludeCommits
  | .event => faultOf (Run.event files run.eventPath)

/-- The fault of the first stage that fails. -/
def firstFault? : Option Fault :=
  Stage.order.findSome? (Stage.fault? files run)

end

/-! ### Settling the options -/

section

variable {files : Files.Source} {env : Environment} {run : Run}

theorem result_baseOptions :
    (baseOptions files run.optionsPath).result = run.givenOptions files := by
  unfold baseOptions givenOptions
  cases run.optionsPath with
  | none => rfl
  | some path =>
    rw [Outcome.result_bind]
    rfl

theorem result_options :
    (options files run).result =
      (run.mergedOptions files).bind fun o => o.validate.map fun _ => o := by
  unfold options mergedOptions
  rw [Outcome.result_bind, result_baseOptions]
  cases run.givenOptions files with
  | error fault => rfl
  | ok base =>
    simp only [Outcome.result_bind, step, Outcome.ofExcept, Except.map, Except.bind]
    cases (base.apply run.overrides).validate <;> rfl

/-- Settled options are the merged ones, and valid. -/
theorem merged_of_settled {o : Options} (h : (options files run).result = .ok o) :
    run.mergedOptions files = .ok o ∧ o.validate = .ok () := by
  rw [result_options] at h
  cases merged : run.mergedOptions files with
  | error fault => simp [merged, Except.bind] at h
  | ok o' =>
    rw [merged] at h
    cases valid : o'.validate with
    | error fault => simp [Except.bind, valid, Except.map] at h
    | ok _ =>
      simp only [Except.bind, valid, Except.map, Except.ok.injEq] at h
      subst h
      exact ⟨rfl, valid⟩

theorem faultOf_options :
    faultOf (options files run).result =
      (Stage.optionsFile.fault? files run).or (Stage.validation.fault? files run) := by
  rw [result_options]
  unfold Stage.fault? mergedFault? mergedOptions
  cases run.givenOptions files with
  | error fault => rfl
  | ok base =>
    simp only [Except.map, Except.bind, faultOf_ok, Option.none_or]
    cases (base.apply run.overrides).validate <;> rfl

/-! ### Building the notice -/

theorem faultOf_filter (o : Options) :
    faultOf (Commit.Filter.ofOptions o) =
      (faultOf (Commit.compilePatterns Commit.includeOption o.includeCommits)).or
        (faultOf (Commit.compilePatterns Commit.excludeOption o.excludeCommits)) := by
  unfold Commit.Filter.ofOptions
  cases Commit.compilePatterns Commit.includeOption o.includeCommits with
  | error fault => rfl
  | ok included =>
    cases Commit.compilePatterns Commit.excludeOption o.excludeCommits <;> rfl

/-- With valid options, building a notice fails with the fault of the templates, the patterns or the
event. -/
theorem faultOf_notice {o : Options} (valid : o.validate = .ok ()) :
    faultOf (notice files env run o).result =
      (faultOf (registry files run.templatesPath).result).or
        ((faultOf (Commit.Filter.ofOptions o)).or (faultOf (event files run.eventPath))) := by
  unfold notice
  rw [Outcome.result_bind]
  cases (registry files run.templatesPath).result with
  | error fault => rfl
  | ok registry =>
    obtain ⟨design, designed⟩ := Notice.design_of_valid valid (registry.resolve o.template).template
    simp only [Outcome.result_bind, Outcome.report, step, Outcome.ofExcept, designed]
    cases Commit.Filter.ofOptions o with
    | error fault => rfl
    | ok filter =>
      cases event files run.eventPath <;> rfl

/-! ### Exit codes -/

theorem mergedFault?_eq_some {check : Options → Except Fault α} {fault : Fault}
    (h : run.mergedFault? files check = some fault) : ∃ o, check o = .error fault := by
  unfold mergedFault? at h
  split at h
  · next o _ => exact ⟨o, faultOf_eq_some_iff.1 h⟩
  · simp at h

/-- The stage that fails decides the exit code. -/
theorem Stage.exitCode_of_fault {stage : Stage} {fault : Fault}
    (h : stage.fault? files run = some fault) : fault.exitCode = stage.exitCode := by
  unfold Fault.exitCode
  cases stage with
  | optionsFile =>
    have failed : run.givenOptions files = .error fault := faultOf_eq_some_iff.1 h
    unfold givenOptions at failed
    split at failed
    · simp at failed
    · rw [kind_of_readOptions failed]
      rfl
  | validation =>
    obtain ⟨o, failed⟩ := mergedFault?_eq_some h
    rw [kind_of_validate failed]
    rfl
  | webhook =>
    obtain ⟨o, failed⟩ := mergedFault?_eq_some h
    rw [Fault.kind_of_isAboutWebhook (Webhook.isAboutWebhook_of_ofOptions failed)]
    rfl
  | templates =>
    rw [kind_of_registry (faultOf_eq_some_iff.1 h)]
    rfl
  | includePatterns =>
    obtain ⟨o, failed⟩ := mergedFault?_eq_some h
    obtain ⟨pattern, -, rfl⟩ := mapError_eq_error_iff.1 failed
    rfl
  | excludePatterns =>
    obtain ⟨o, failed⟩ := mergedFault?_eq_some h
    obtain ⟨pattern, -, rfl⟩ := mapError_eq_error_iff.1 failed
    rfl
  | event =>
    rw [kind_of_event (faultOf_eq_some_iff.1 h)]
    rfl

/-! ### The first fault -/

theorem findSome?_cons_eq_or {α β : Type} (f : α → Option β) (a : α) (l : List α) :
    (a :: l).findSome? f = (f a).or (l.findSome? f) := by
  rw [List.findSome?_cons]
  cases f a <;> rfl

theorem firstFault?_eq :
    run.firstFault? files =
      ((Stage.optionsFile.fault? files run).or (Stage.validation.fault? files run)).or
        ((Stage.webhook.fault? files run).or
          ((Stage.templates.fault? files run).or
            (((Stage.includePatterns.fault? files run).or
              (Stage.excludePatterns.fault? files run)).or (Stage.event.fault? files run)))) := by
  unfold firstFault? Stage.order
  simp only [findSome?_cons_eq_or, List.findSome?_nil, Option.or_none, Option.or_assoc]

theorem firstFault?_of_unsettled {fault : Fault} (h : (options files run).result = .error fault) :
    run.firstFault? files = some fault := by
  rw [firstFault?_eq, ← faultOf_options, h]
  rfl

theorem firstFault?_of_settled (env : Environment) {o : Options}
    (h : (options files run).result = .ok o) :
    run.firstFault? files =
      (faultOf (Webhook.ofOptions o)).or (faultOf (notice files env run o).result) := by
  obtain ⟨merged, valid⟩ := merged_of_settled h
  rw [firstFault?_eq, ← faultOf_options, h, faultOf_notice valid, faultOf_filter]
  simp only [Stage.fault?, mergedFault?, merged, faultOf_ok, Option.none_or]

variable [Delivery.Http] (can : Delivery.Http.built = .ok ())
variable (transport : Delivery.Transport) (env : Environment)

include can

/-- Sending ends with the first fault and no request, if there is one. -/
theorem send_of_firstFault {fault : Fault} (h : run.firstFault? files = some fault) :
    (send files transport env run).result = .error fault ∧
      (send files transport env run).requests = [] := by
  cases send_cases files transport env run with
  | options fault' settled result quiet =>
    rw [firstFault?_of_unsettled settled] at h
    exact ⟨Option.some.inj h ▸ result, quiet⟩
  | webhook o fault' settled found result quiet =>
    rw [firstFault?_of_settled env settled, found] at h
    exact ⟨Option.some.inj h ▸ result, quiet⟩
  | client o url fault' settled found unbuilt result quiet =>
    exact absurd unbuilt (Delivery.Client.build_ne_error can)
  | notice o url fault' settled found ready built result quiet =>
    rw [firstFault?_of_settled env settled, found, built] at h
    exact ⟨Option.some.inj h ▸ result, quiet⟩
  | delivery o url notice settled found ready built result requests =>
    rw [firstFault?_of_settled env settled, found, built] at h
    simp at h

/-- Without a fault, the notice is delivered. -/
theorem send_of_no_fault (h : run.firstFault? files = none) :
    ∃ url notice, FindsWebhook files run (.ok url) ∧
      (render files env run).result = .ok notice ∧
      (send files transport env run).result =
        (Delivery.deliver transport url notice).result.map (receiptOf url notice) ∧
      (send files transport env run).requests = [Delivery.requestOf url notice] := by
  cases send_cases files transport env run with
  | options fault settled result quiet =>
    rw [firstFault?_of_unsettled settled] at h
    simp at h
  | webhook o fault settled found result quiet =>
    rw [firstFault?_of_settled env settled, found] at h
    simp at h
  | client o url fault settled found unbuilt result quiet =>
    exact absurd unbuilt (Delivery.Client.build_ne_error can)
  | notice o url fault settled found ready built result quiet =>
    rw [firstFault?_of_settled env settled, found, built] at h
    simp at h
  | delivery o url notice settled found ready built result requests =>
    exact ⟨url, notice, ⟨o, settled, found⟩,
      (result_render_of_options files env run settled).trans built, result, requests⟩

/-! ### The delivery -/

variable {transport env}

variable (files transport env run) in
/-- Sending ends with the fault of a stage and no request, or with a delivery. -/
theorem send_of_fault_or_delivery :
    (∃ stage fault, Stage.fault? files run stage = some fault ∧
        (send files transport env run).result = .error fault ∧
        (send files transport env run).requests = []) ∨
      ∃ url notice,
        (send files transport env run).result =
          (Delivery.deliver transport url notice).result.map (receiptOf url notice) ∧
        (send files transport env run).requests = [Delivery.requestOf url notice] := by
  cases first : run.firstFault? files with
  | some fault =>
    obtain ⟨stage, -, fails⟩ := List.exists_of_findSome?_eq_some first
    exact .inl ⟨stage, fault, fails, send_of_firstFault can transport env first⟩
  | none =>
    obtain ⟨url, notice, -, -, delivered⟩ := send_of_no_fault can transport env first
    exact .inr ⟨url, notice, delivered⟩

/-- A request is made unless a stage fails. -/
theorem requests_eq_nil_iff :
    (send files transport env run).requests = [] ↔
      ∃ stage : Stage, stage.fault? files run ≠ none := by
  cases first : run.firstFault? files with
  | some fault =>
    obtain ⟨stage, -, fails⟩ := List.exists_of_findSome?_eq_some first
    exact iff_of_true (send_of_firstFault can transport env first).2 ⟨stage, by simp [fails]⟩
  | none =>
    obtain ⟨url, notice, -, -, -, requests⟩ := send_of_no_fault can transport env first
    refine iff_of_false (by simp [requests]) ?_
    rintro ⟨stage, fails⟩
    exact fails (List.findSome?_eq_none_iff.1 first stage stage.mem_order)

/-- Sending ends well exactly if its request gets an answer of success. -/
theorem send_ok_iff :
    (∃ receipt, (send files transport env run).result = .ok receipt) ↔
      ∃ request answer, (send files transport env run).requests = [request] ∧
        transport request = some answer ∧ 200 ≤ answer.status ∧ answer.status ≤ 299 := by
  rcases send_of_fault_or_delivery files run can transport env with
    ⟨stage, fault, -, result, requests⟩ | ⟨url, notice, result, requests⟩
  · simp [result, requests]
  · rw [result, requests]
    constructor
    · rintro ⟨receipt, ok⟩
      obtain ⟨status, delivered, -⟩ := map_eq_ok_iff.1 ok
      obtain ⟨answer, answered, rfl, range⟩ := Delivery.result_deliver_eq_ok_iff.1 delivered
      exact ⟨_, answer, rfl, answered, range⟩
    · rintro ⟨request, answer, same, answered, range⟩
      obtain rfl := List.singleton_inj.1 same
      have delivered := Delivery.result_deliver_eq_ok_iff.2 ⟨answer, answered, rfl, range⟩
      exact ⟨_, map_eq_ok_iff.2 ⟨_, delivered, rfl⟩⟩

/-- A run that fails has made its request exactly if it fails in the delivery. -/
theorem exitCode_of_send {fault : Fault}
    (h : (send files transport env run).result = .error fault) :
    fault.exitCode = 3 ↔ ∃ request, (send files transport env run).requests = [request] := by
  rcases send_of_fault_or_delivery files run can transport env with
    ⟨stage, fault', fails, result, requests⟩ | ⟨url, notice, result, requests⟩
  · obtain rfl := Except.error.inj (result.symm.trans h)
    rw [Stage.exitCode_of_fault fails, requests]
    cases stage <;> simp [Stage.exitCode]
  · rw [result] at h
    obtain ⟨flaw, rfl⟩ : ∃ flaw, fault = .notDelivered flaw := by
      cases delivered : (Delivery.deliver transport url notice).result with
      | ok status => simp [delivered, Except.map] at h
      | error cause =>
        obtain ⟨flaw, -, rfl⟩ := mapError_eq_error_iff.1 delivered
        rw [delivered] at h
        exact ⟨flaw, (Except.error.inj h).symm⟩
    simp [requests, Fault.exitCode, Fault.kind, Fault.Kind.exitCode]

end

/-- **The first stage that fails decides, and at most one request is made.** If a stage fails,
sending ends with the fault of the first one that does, with its exit code and without a request. If
none does, the notice is delivered with one request, and sending ends well exactly if the answer to
this request has a status of success. The exit code of delivery is that of a run that made its
request. The embed among the options cannot be a fault once the options are settled. It is assumed
that a client can be built. -/
theorem send_by_stages [Delivery.Http] (can : Delivery.Http.built = .ok ())
    (files : Files.Source) (transport : Delivery.Transport) (env : Environment) (run : Run) :
    let sent := send files transport env run
    (∀ (before after : List Stage) (stage : Stage) (fault : Fault),
      Stage.order = before ++ stage :: after →
      (∀ earlier ∈ before, earlier.fault? files run = none) →
      stage.fault? files run = some fault →
      sent.result = .error fault ∧ sent.requests = [] ∧ fault.exitCode = stage.exitCode) ∧
    ((∀ stage : Stage, stage.fault? files run = none) →
      ∃ url notice, FindsWebhook files run (.ok url) ∧
        (render files env run).result = .ok notice ∧
        sent.result = (Delivery.deliver transport url notice).result.map (receiptOf url notice) ∧
        sent.requests = [Delivery.requestOf url notice]) ∧
    ((∃ receipt, sent.result = .ok receipt) ↔
      ∃ request answer, sent.requests = [request] ∧ transport request = some answer ∧
        200 ≤ answer.status ∧ answer.status ≤ 299) ∧
    (∀ fault, sent.result = .error fault →
      (fault.exitCode = 3 ↔ ∃ request, sent.requests = [request])) ∧
    (sent.requests = [] ∨ ∃ request, sent.requests = [request] ∧ request.method = "POST") ∧
    (sent.requests = [] ↔ ∃ stage : Stage, stage.fault? files run ≠ none) ∧
    (∀ o, (options files run).result = .ok o →
      ∀ template, ∃ design, Notice.Design.ofTemplate template o = .ok design) := by
  intro sent
  refine ⟨?_, ?_, send_ok_iff can, fun fault h => exitCode_of_send can h, ?_,
    requests_eq_nil_iff can, ?_⟩
  · intro before after stage fault order earlier fails
    have first : run.firstFault? files = some fault :=
      List.findSome?_eq_some_iff.2 ⟨before, stage, after, order, fails, earlier⟩
    obtain ⟨result, requests⟩ := send_of_firstFault can transport env first
    exact ⟨result, requests, Stage.exitCode_of_fault fails⟩
  · intro passed
    have none : run.firstFault? files = none :=
      List.findSome?_eq_none_iff.2 fun stage _ => passed stage
    exact send_of_no_fault can transport env none
  · rcases send_of_fault_or_delivery files run can transport env with
      ⟨_, _, _, _, requests⟩ | ⟨url, notice, _, requests⟩
    · exact .inl requests
    · exact .inr ⟨_, requests, rfl⟩
  · intro o settled
    exact Notice.design_of_valid (merged_of_settled settled).2

/-- Of a missing webhook and a missing event the webhook counts, as it is looked for first. A run
without a fault makes its request; with the answer 204 it ends well and with the answer 500 it does
not. -/
theorem send_by_stages_webhook_before_event :
    let files : Files.Source := ⟨fun _ => .ok (.file [0x7b, 0x7d])⟩
    let env : Environment := ⟨.empty⟩
    let bare : Run := ⟨.empty, none, none, none⟩
    let full : Run :=
      ⟨{ Options.Overrides.empty with webhook := some "http://[::1]/", embed := some "[0]" },
        some "event.json", none, none⟩
    let answered (status : Nat) := send files (fun _ => some ⟨status, none⟩) env full
    let unanswered := send files (fun _ => none) env bare
    Stage.event.fault? files bare = some .eventMissing ∧
    unanswered.result = .error .webhookMissing ∧ unanswered.requests = [] ∧
    (∃ receipt, (answered 204).result = .ok receipt) ∧
    (∃ fault, (answered 500).result = .error fault ∧ fault.exitCode = 3) ∧
    ∃ design, Notice.Design.ofTemplate Template.plain
      ((Options.initial).apply full.overrides) = .ok design := by
  intro files env bare full answered unanswered
  have settled : (options files full).result = .ok (Options.initial.apply full.overrides) := by
    decide +kernel
  have passed : ∀ stage : Stage, stage.fault? files full = none := by
    intro stage
    cases stage with
    | event =>
      have event : Run.event files full.eventPath = .ok ⟨.object []⟩ := by cbv
      exact congrArg faultOf event
    | _ => decide +kernel
  have first := (send_by_stages rfl files (fun _ => none) env bare).1 [.optionsFile, .validation]
    [.templates, .includePatterns, .excludePatterns, .event] .webhook .webhookMissing rfl
    (by decide +kernel) (by decide +kernel)
  have taken (status : Nat) := send_by_stages rfl files (fun _ => some ⟨status, none⟩) env full
  refine ⟨rfl, first.1, first.2.1, ?_, ?_, ?_⟩
  · obtain ⟨url, notice, -, -, -, requests⟩ := (taken 204).2.1 passed
    exact (taken 204).2.2.1.2 ⟨_, ⟨204, none⟩, requests, rfl, by decide, by decide⟩
  · obtain ⟨url, notice, -, -, result, requests⟩ := (taken 500).2.1 passed
    exact ⟨_, result, ((taken 500).2.2.2.1 _ result).2 ⟨_, requests⟩⟩
  · exact (taken 204).2.2.2.2.2.2 _ settled Template.plain

end Run

end PushNotice
