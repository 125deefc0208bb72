import PushNotice.Run

/-!
# PushNotice.Proofs.Run.Parts

**How far a run comes.** Whatever a run does before it delivers a notice makes no request
(`Outcome.Quiet`), so a run that ends there has made none. `send_cases` says how sending may end:
with a fault of the options, of the webhook, of its client or of the notice, or with the delivery
of the notice.
Theorems about sending go through these cases and look at no part of a run themselves.
-/

namespace PushNotice

namespace Outcome

/-- No request is made. -/
def Quiet (outcome : Outcome α) : Prop :=
  outcome.requests = []

theorem quiet_pure (value : α) : (Pure.pure value : Outcome α).Quiet := rfl

theorem quiet_report (events : List Log.Event) : (report events).Quiet := rfl

theorem quiet_ofExcept (result : Except Fault α) : (ofExcept result).Quiet := rfl

theorem Quiet.bind {first : Outcome α} {next : α → Outcome β} (h : first.Quiet)
    (h' : ∀ value, (next value).Quiet) : (first >>= next).Quiet := by
  unfold Quiet at *
  rw [requests_bind, h]
  cases first.result with
  | error fault => rfl
  | ok value => exact h' value

end Outcome

namespace Run

open Outcome

variable (files : Files.Source) (transport : Delivery.Transport) (env : Environment) (run : Run)

theorem result_step {α : Type} (result : Except Fault α) : (step result).result = result := rfl

/-! ### Parts that make no request -/

theorem quiet_baseOptions (path : Option String) : (baseOptions files path).Quiet := by
  cases path with
  | none => exact quiet_pure _
  | some path => exact (quiet_report _).bind fun _ => quiet_ofExcept _

theorem quiet_options : (options files run).Quiet :=
  (quiet_baseOptions files _).bind fun _ => (quiet_ofExcept _).bind fun _ => quiet_pure _

theorem quiet_registry (directory : Option String) : (registry files directory).Quiet := by
  cases directory with
  | none => exact quiet_pure _
  | some directory =>
    exact (quiet_report _).bind fun _ => (quiet_ofExcept _).bind fun _ =>
      (quiet_report _).bind fun _ => quiet_pure _

theorem quiet_notice (o : Options) : (notice files env run o).Quiet :=
  (quiet_registry files _).bind fun _ => (quiet_report _).bind fun _ =>
    (quiet_ofExcept _).bind fun _ => (quiet_ofExcept _).bind fun _ =>
      (quiet_ofExcept _).bind fun _ => (quiet_report _).bind fun _ => quiet_pure _

/-! ### How sending ends -/

/-- The options of the run are settled, and this is what looking for their webhook gives. -/
def FindsWebhook (found : Except Fault Url) : Prop :=
  ∃ o, (options files run).result = .ok o ∧ Webhook.ofOptions o = found

/-- What is known after a notice went to a webhook and the answer had a status. -/
def receiptOf (webhook : Url) (notice : Notice) (status : Nat) : Receipt :=
  ⟨String.ofList webhook.hostText, notice.embeds.length, status⟩

section

variable [Delivery.Http]

/-- The ways in which sending may end. -/
inductive SendCase (sent : Outcome Receipt) : Prop where
  /-- The options cannot be settled. -/
  | options (fault : Fault) (settled : (Run.options files run).result = .error fault)
      (result : sent.result = .error fault) (quiet : sent.Quiet)
  /-- There is no webhook that can be used. -/
  | webhook (o : Options) (fault : Fault) (settled : (Run.options files run).result = .ok o)
      (found : Webhook.ofOptions o = .error fault)
      (result : sent.result = .error fault) (quiet : sent.Quiet)
  /-- There is no client for the webhook. -/
  | client (o : Options) (url : Url) (fault : Fault)
      (settled : (Run.options files run).result = .ok o) (found : Webhook.ofOptions o = .ok url)
      (unbuilt : Delivery.Client.build url = .error fault)
      (result : sent.result = .error fault) (quiet : sent.Quiet)
  /-- There is no notice. -/
  | notice (o : Options) (url : Url) (fault : Fault)
      (settled : (Run.options files run).result = .ok o) (found : Webhook.ofOptions o = .ok url)
      (ready : Delivery.Http.built = .ok ())
      (built : (Run.notice files env run o).result = .error fault)
      (result : sent.result = .error fault) (quiet : sent.Quiet)
  /-- The notice is delivered, well or not. -/
  | delivery (o : Options) (url : Url) (notice : Notice)
      (settled : (Run.options files run).result = .ok o) (found : Webhook.ofOptions o = .ok url)
      (ready : Delivery.Http.built = .ok ())
      (built : (Run.notice files env run o).result = .ok notice)
      (result : sent.result =
        (Delivery.deliver transport url notice).result.map (receiptOf url notice))
      (requests : sent.requests = [Delivery.requestOf url notice])

theorem send_cases : SendCase files transport env run (send files transport env run) := by
  have quietOptions := quiet_options files run
  unfold send
  cases settled : (options files run).result with
  | error fault =>
    rw [bind_of_error settled]
    exact .options fault settled rfl quietOptions
  | ok o =>
    rw [bind_of_ok settled]
    have quietNotice := quiet_notice files env run o
    cases found : Webhook.ofOptions o with
    | error fault =>
      rw [bind_of_error (result_step (.error fault))]
      refine .webhook o fault settled found rfl ?_
      rw [Quiet, quietOptions]
      rfl
    | ok url =>
      rw [bind_of_ok (result_step (.ok url))]
      cases client : Delivery.Client.build url with
      | error fault =>
        rw [bind_of_error (result_step (.error fault))]
        refine .client o url fault settled found client rfl ?_
        rw [Quiet, quietOptions]
        rfl
      | ok built_client =>
        obtain ⟨ready, rfl⟩ := Delivery.Client.build_eq_ok_iff.1 client
        rw [bind_of_ok (result_step (.ok (Delivery.Client.forWebhook url)))]
        cases built : (notice files env run o).result with
        | error fault =>
          rw [bind_of_error built]
          refine .notice o url fault settled found ready built rfl ?_
          rw [Quiet, quietOptions, quietNotice]
          rfl
        | ok notice =>
          rw [bind_of_ok built]
          have delivered : (Delivery.Client.forWebhook url).deliver transport notice =
            Delivery.deliver transport url notice := rfl
          refine .delivery o url notice settled found ready built ?_ ?_
          · rw [delivered, result_bind]
            cases (Delivery.deliver transport url notice).result <;> rfl
          · rw [quietOptions, quietNotice, delivered, requests_bind]
            cases (Delivery.deliver transport url notice).result <;> rfl

end

/-! ### Rendering -/

theorem result_render_of_fault {fault : Fault} (h : (options files run).result = .error fault) :
    (render files env run).result = .error fault := by
  unfold render
  rw [bind_of_error h]

theorem result_render_of_options {o : Options} (h : (options files run).result = .ok o) :
    (render files env run).result = (notice files env run o).result := by
  unfold render
  rw [bind_of_ok h]

end Run

end PushNotice
