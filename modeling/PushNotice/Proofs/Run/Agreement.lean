import Mathlib
import PushNotice.Proofs.Run.Faults
import PushNotice.Proofs.Run.Parts

/-!
# PushNotice.Proofs.Run.Agreement

**Rendering and sending agree.** Sending settles its options with one input more than rendering,
that for the webhook, and looks for the webhook before it takes up templates, patterns and event.
Neither makes a difference to the notice: rendering does not look at the webhook at all
(`render_withWebhook`), and sending delivers the notice that rendering gives, or fails as rendering
fails, unless it has failed because of the webhook before. That a client can be built is a
hypothesis of this; where none can, sending fails for that reason once it has a webhook
(`send_of_no_client`).
-/

namespace PushNotice.Run

/-- The run with another input for the webhook. -/
def withWebhook (run : Run) (webhook : Option String) : Run :=
  { run with overrides := { run.overrides with webhook := webhook } }

theorem FindsWebhook.unique {files : Files.Source} {run : Run} {found found' : Except Fault Url}
    (h : FindsWebhook files run found) (h' : FindsWebhook files run found') : found = found' := by
  obtain ⟨o, settled, rfl⟩ := h
  obtain ⟨o', settled', rfl⟩ := h'
  rw [settled] at settled'
  rw [Except.ok.inj settled']

section

variable (files : Files.Source) (transport : Delivery.Transport) (env : Environment) (run : Run)

/-- The webhook has no part in rendering, not even in the reports. -/
theorem render_withWebhook (webhook : Option String) :
    render files env (run.withWebhook webhook) = render files env run := by
  unfold render options
  simp only [bind_assoc, pure_bind]
  -- Both sides check and use the same options but for the webhook, which is not looked at.
  rfl

variable {files env run} [Delivery.Http]

/-- Sending with a notice to deliver, or with none because of the webhook. -/
theorem send_of_rendered (can : Delivery.Http.built = .ok ()) {notice : Notice}
    (h : (render files env run).result = .ok notice) :
    (∃ fault, FindsWebhook files run (.error fault) ∧ fault.isAboutWebhook = true ∧
        fault.kind = .user ∧ (send files transport env run).result = .error fault ∧
        (send files transport env run).requests = []) ∨
      ∃ url, FindsWebhook files run (.ok url) ∧
        (send files transport env run).result =
          (Delivery.deliver transport url notice).result.map (receiptOf url notice) ∧
        (send files transport env run).requests = [Delivery.requestOf url notice] := by
  cases send_cases files transport env run with
  | options fault settled result quiet =>
    rw [result_render_of_fault files env run settled] at h
    simp at h
  | webhook o fault settled found result quiet =>
    have about := Webhook.isAboutWebhook_of_ofOptions found
    exact .inl ⟨fault, ⟨o, settled, found⟩, about, Fault.kind_of_isAboutWebhook about, result,
      quiet⟩
  | client o url fault settled found unbuilt result quiet =>
    exact absurd unbuilt (Delivery.Client.build_ne_error can)
  | notice o url fault settled found ready built result quiet =>
    rw [result_render_of_options files env run settled, built] at h
    simp at h
  | delivery o url built_notice settled found ready built result requests =>
    rw [result_render_of_options files env run settled, built] at h
    obtain rfl := Except.ok.inj h
    exact .inr ⟨url, ⟨o, settled, found⟩, result, requests⟩

/-- Sending without a notice to deliver. -/
theorem send_of_not_rendered (can : Delivery.Http.built = .ok ()) {fault : Fault}
    (h : (render files env run).result = .error fault) :
    (send files transport env run).requests = [] ∧
      ((send files transport env run).result = .error fault ∨
        ∃ cause, FindsWebhook files run (.error cause) ∧ cause.isAboutWebhook = true ∧
          cause.kind = .user ∧ (send files transport env run).result = .error cause) := by
  cases send_cases files transport env run with
  | options fault' settled result quiet =>
    rw [result_render_of_fault files env run settled] at h
    obtain rfl := Except.error.inj h
    exact ⟨quiet, .inl result⟩
  | webhook o cause settled found result quiet =>
    have about := Webhook.isAboutWebhook_of_ofOptions found
    exact ⟨quiet, .inr ⟨cause, ⟨o, settled, found⟩, about, Fault.kind_of_isAboutWebhook about,
      result⟩⟩
  | client o url fault' settled found unbuilt result quiet =>
    exact absurd unbuilt (Delivery.Client.build_ne_error can)
  | notice o url fault' settled found ready built result quiet =>
    rw [result_render_of_options files env run settled, built] at h
    obtain rfl := Except.error.inj h
    exact ⟨quiet, .inl result⟩
  | delivery o url notice settled found ready built result requests =>
    rw [result_render_of_options files env run settled, built] at h
    simp at h

variable {transport} in
/-- Every request that sending makes carries the notice that rendering gives. -/
theorem request_of_rendered (can : Delivery.Http.built = .ok ()) {request : Delivery.Request}
    (h : request ∈ (send files transport env run).requests) :
    ∃ url notice, (render files env run).result = .ok notice ∧
      request = Delivery.requestOf url notice := by
  cases rendered : (render files env run).result with
  | error fault =>
    rw [(send_of_not_rendered transport can rendered).1] at h
    simp at h
  | ok notice =>
    rcases send_of_rendered transport can rendered with
      ⟨_, _, _, _, _, none⟩ | ⟨url, _, _, one⟩
    · rw [none] at h
      simp at h
    · rw [one] at h
      exact ⟨url, notice, rfl, List.mem_singleton.1 h⟩

/-- Without a client, sending comes to nothing once there is a webhook, whatever else is wrong. -/
theorem send_of_no_client {failure : Delivery.Failure}
    (cannot : Delivery.Http.built = .error failure) {url : Url}
    (finds : FindsWebhook files run (.ok url)) :
    (send files transport env run).result = .error (.notDelivered (.noClient failure.account)) ∧
      (send files transport env run).requests = [] := by
  obtain ⟨o, settled, found⟩ := finds
  cases send_cases files transport env run with
  | options fault unsettled result quiet =>
    rw [settled] at unsettled
    simp at unsettled
  | webhook o' fault settled' missing result quiet =>
    obtain rfl := Except.ok.inj (settled.symm.trans settled')
    rw [found] at missing
    simp at missing
  | client o' url' fault settled' found' unbuilt result quiet =>
    obtain ⟨failure', cannot', rfl⟩ := Delivery.Client.build_eq_error_iff.1 unbuilt
    obtain rfl := Except.error.inj (cannot.symm.trans cannot')
    exact ⟨result, quiet⟩
  | notice o' url' fault settled' found' ready built result quiet =>
    rw [cannot] at ready
    simp at ready
  | delivery o' url' notice settled' found' ready built result requests =>
    rw [cannot] at ready
    simp at ready

end

/-- **Rendering and sending agree**, whatever input for the webhook sending has in addition. If
rendering gives a notice, sending hands over just this notice or fails because of the webhook, with
no request; if rendering fails, sending makes no request and fails alike or because of the webhook.
So the webhook has no influence on what a notice says. It is assumed that a client can be built. -/
theorem send_agrees_with_render [Delivery.Http] (can : Delivery.Http.built = .ok ())
    (files : Files.Source) (transport : Delivery.Transport) (env : Environment) (run : Run)
    (webhook : Option String) :
    let given := run.withWebhook webhook
    let sent := send files transport env given
    (∀ notice, (render files env run).result = .ok notice →
      (∃ fault, FindsWebhook files given (.error fault) ∧ fault.isAboutWebhook = true ∧
        fault.kind = .user ∧ sent.result = .error fault ∧ sent.requests = []) ∨
      ∃ url, FindsWebhook files given (.ok url) ∧
        sent.result = (Delivery.deliver transport url notice).result.map (receiptOf url notice) ∧
        sent.requests = [Delivery.requestOf url notice]) ∧
    (∀ fault, (render files env run).result = .error fault →
      sent.requests = [] ∧
        (sent.result = .error fault ∨
          ∃ cause, FindsWebhook files given (.error cause) ∧ cause.isAboutWebhook = true ∧
            cause.kind = .user ∧ sent.result = .error cause)) ∧
    render files env given = render files env run ∧
    (∀ (transport' : Delivery.Transport) (webhook' : Option String),
      ∀ request ∈ sent.requests,
      ∀ request' ∈ (send files transport' env (run.withWebhook webhook')).requests,
        request.body = request'.body) := by
  intro given sent
  have same : render files env given = render files env run := render_withWebhook ..
  refine ⟨fun notice h => ?_, fun fault h => ?_, same, ?_⟩
  · exact send_of_rendered transport can (same ▸ h)
  · exact send_of_not_rendered transport can (same ▸ h)
  · intro transport' webhook' request mem request' mem'
    obtain ⟨url, notice, rendered, rfl⟩ := request_of_rendered can mem
    obtain ⟨url', notice', rendered', rfl⟩ := request_of_rendered can mem'
    rw [same] at rendered
    rw [render_withWebhook, rendered] at rendered'
    obtain rfl := Except.ok.inj rendered'
    rfl

/-- With an empty event, rendering gives a notice without embeds, and sending hands it over to
either of two webhooks. Without an event, both fail for that reason. -/
theorem send_agrees_with_render_empty_event :
    let files : Files.Source := ⟨fun _ => .ok (.file [0x7b, 0x7d])⟩
    let env : Environment := ⟨.empty⟩
    let transport : Delivery.Transport := fun _ => none
    let run : Run := ⟨.empty, some "event.json", none, none⟩
    let eventless : Run := ⟨.empty, none, none, none⟩
    let notice : Notice := ⟨"Successful commit to **/**", []⟩
    let sent := send files transport env (run.withWebhook (some "http://[::1]/"))
    let sent' := send files transport env (run.withWebhook (some "http://[::2]/"))
    let unsent := send files transport env (eventless.withWebhook (some "http://[::1]/"))
    (render files env run).result = .ok notice ∧
    (∃ url url', url ≠ url' ∧ sent.requests = [Delivery.requestOf url notice] ∧
      sent'.requests = [Delivery.requestOf url' notice] ∧
      (Delivery.requestOf url notice).body = (Delivery.requestOf url' notice).body) ∧
    (render files env eventless).result = .error .eventMissing ∧
    unsent.requests = [] ∧ unsent.result = .error .eventMissing := by
  intro files env transport run eventless notice sent sent' unsent
  let host (last : Nat) : Url :=
    ⟨.http, ⟨[], .ipv6 [0, 0, 0, 0, 0, 0, 0, last], none⟩, [[]], none, none⟩
  have rendered : (render files env run).result = .ok notice := by
    have settled : (options files run).result = .ok Options.initial := by decide +kernel
    have event : event files run.eventPath = .ok ⟨.object []⟩ := by cbv
    have content : Placeholder.renderOrEmpty Placeholder.pathResolver
        (Context.ofRun env (.object [])).shared Template.plain.message =
          "Successful commit to **/**" := by decide +kernel
    rw [result_render_of_options files env run settled]
    unfold Run.notice
    simp only [Outcome.result_bind, step, Outcome.ofExcept, event]
    exact congrArg (fun content => Except.ok (Notice.mk content [])) content
  have failed : (render files env eventless).result = .error .eventMissing := by
    have settled : (options files eventless).result = .ok Options.initial := by decide +kernel
    rw [result_render_of_options files env eventless settled]
    rfl
  have finds : FindsWebhook files (run.withWebhook (some "http://[::1]/")) (.ok (host 1)) :=
    ⟨{ Options.initial with webhook := some "http://[::1]/" }, by decide +kernel, by decide +kernel⟩
  have finds' : FindsWebhook files (run.withWebhook (some "http://[::2]/")) (.ok (host 2)) :=
    ⟨{ Options.initial with webhook := some "http://[::2]/" }, by decide +kernel, by decide +kernel⟩
  have handed : ∀ text url, FindsWebhook files (run.withWebhook (some text)) (.ok url) →
      (send files transport env (run.withWebhook (some text))).requests =
        [Delivery.requestOf url notice] := by
    intro text url finds
    have agrees := send_agrees_with_render rfl files transport env run (some text)
    rcases agrees.1 notice rendered with ⟨fault, other, -⟩ | ⟨url', same, -, requests⟩
    · exact absurd (finds.unique other) (by simp)
    · obtain rfl := Except.ok.inj (finds.unique same)
      exact requests
  have one := handed _ _ finds
  have other := handed _ _ finds'
  have bodies := (send_agrees_with_render rfl files transport env run (some "http://[::1]/")).2.2.2
    transport (some "http://[::2]/") _ (one ▸ List.mem_singleton_self _) _
    (other ▸ List.mem_singleton_self _)
  -- The event has no part in settling the options.
  have findsAlike : FindsWebhook files (eventless.withWebhook (some "http://[::1]/"))
    (.ok (host 1)) := finds
  obtain ⟨quiet, cause⟩ :=
    (send_agrees_with_render rfl files transport env eventless (some "http://[::1]/")).2.1 _ failed
  refine ⟨rendered, ⟨host 1, host 2, by decide, one, other, bodies⟩, failed, quiet, ?_⟩
  rcases cause with same | ⟨cause, missing, -⟩
  · exact same
  · exact absurd (findsAlike.unique missing) (by simp)

end PushNotice.Run
