import PushNotice.Program
import PushNotice.Proofs.Result
import PushNotice.Proofs.Run.Agreement

/-!
# PushNotice.Proofs.Delivery.Credentials

**What shows of a webhook.** Whoever knows the URL of a webhook can write to it, so the URL goes
into the request and nowhere else. This is a statement about two runs: with webhooks that are
refused for one reason, or accepted with one host, what is reported and what comes out is the same,
and requests are the same apart from their URL (`Outcome.SameButUrls`). Parts that keep to this keep
to it one after the other, and so do whole runs (`send_withWebhook`).

What the library says of a failure shows the URL that it is about. It is a hypothesis that the URL is
left out of what is to be told without it (`Http.StripsUrl`); that the program leaves it out wherever
it tells of a failure is what is proved.
-/

namespace PushNotice

/-! ### Refused webhooks -/

/-- Whether requests can be made to URLs of a scheme. -/
def Url.Scheme.isHttp : Scheme → Bool
  | .http | .https => true
  | _ => false

/-- The scheme of what a text refers to. -/
def Url.Reference.scheme : Reference → Scheme
  | .web url => url.scheme
  | .other scheme => scheme

namespace Webhook

/-- Why a text is no webhook. -/
inductive Rejection where
  /-- It is no URL. -/
  | malformed (cause : Url.ParseError)
  /-- It is a URL with another scheme. -/
  | otherScheme (scheme : Url.Scheme)
deriving DecidableEq, Repr

/-- Why a text is no webhook, if it is none. -/
def rejection? (text : String) : Option Rejection :=
  match Url.Reference.ofText (Text.trim text.toList) with
  | .error cause => some (.malformed cause)
  | .ok reference => if reference.scheme.isHttp then none else some (.otherScheme reference.scheme)

/-- The fault of a run with such a webhook. -/
def Rejection.fault : Rejection → Fault
  | .malformed cause => .webhookMalformed cause
  | .otherScheme scheme => .webhookScheme (String.ofList scheme.name)

theorem isHttp_of_ofText_other {cs : List Char} {scheme : Url.Scheme}
    (h : Url.Reference.ofText cs = .ok (.other scheme)) : scheme.isHttp = false := by
  unfold Url.Reference.ofText at h
  dsimp only at h
  split at h
  · next read rest found =>
    -- Only those of files and unknown ones are not read as schemes of the web.
    cases read <;> simp only [Url.Reference.afterScheme, map_eq_ok_iff] at h <;>
      obtain ⟨_, _, same⟩ := h <;> cases same <;> rfl
  · simp at h

/-- **A text is refused exactly if there is a reason for it**, and only the reason counts. -/
theorem ofText_eq_error_iff {text : String} {fault : Fault} :
    ofText text = .error fault ↔
      ∃ reason, rejection? text = some reason ∧ reason.fault = fault := by
  unfold ofText rejection?
  cases read : Url.Reference.ofText (Text.trim text.toList) with
  | error cause => simp [Rejection.fault]
  | ok reference =>
    cases reference with
    | other scheme =>
      simp [Url.Reference.scheme, isHttp_of_ofText_other read, Rejection.fault]
    | web url =>
      obtain ⟨scheme, _, _, _, _⟩ := url
      cases scheme <;> simp [Url.Reference.scheme, Url.Scheme.isHttp, Rejection.fault]

end Webhook

/-! ### Requests apart from their URL -/

namespace Delivery

/-- The requests are the same but for their URLs. -/
def Request.SameButUrl (request request' : Request) : Prop :=
  request' = { request with url := request'.url }

theorem Request.SameButUrl.refl (request : Request) : request.SameButUrl request := rfl

theorem requestOf_sameButUrl (webhook webhook' : Url) (notice : Notice) :
    (requestOf webhook notice).SameButUrl (requestOf webhook' notice) := rfl

end Delivery

/-- What is done is the same but for the URLs that requests are made to. -/
structure Outcome.SameButUrls {α : Type} (done done' : Outcome α) : Prop where
  events : done.events = done'.events
  requests : List.Forall₂ Delivery.Request.SameButUrl done.requests done'.requests
  result : done.result = done'.result

namespace Outcome.SameButUrls

variable {α β : Type}

theorem refl (done : Outcome α) : done.SameButUrls done where
  events := rfl
  requests := List.forall₂_same.2 fun request _ => .refl request
  result := rfl

theorem bind {first first' : Outcome α} {next next' : α → Outcome β}
    (h : first.SameButUrls first')
    (h' : ∀ value, first.result = .ok value → (next value).SameButUrls (next' value)) :
    (first >>= next).SameButUrls (first' >>= next') := by
  cases result : first.result with
  | error fault =>
    rw [bind_of_error result, bind_of_error (h.result ▸ result)]
    exact ⟨h.events, h.requests, rfl⟩
  | ok value =>
    rw [bind_of_ok result, bind_of_ok (h.result ▸ result)]
    have last := h' value result
    exact ⟨congrArg₂ _ h.events last.events, List.rel_append h.requests last.requests, last.result⟩

end Outcome.SameButUrls

/-! ### Deliveries -/

namespace Delivery

/-- Two requests come to the same: to one answer, or to one failure, but perhaps about another
URL. -/
inductive CameBackAlike : Except Failure Answer → Except Failure Answer → Prop where
  | answered (answer : Answer) : CameBackAlike (.ok answer) (.ok answer)
  | failed (failure : Failure) (url' : Option Url) :
      CameBackAlike (.error failure) (.error { failure with url := url' })

variable [Http]

/-- For every webhook a client can be built, or for none, and then for the same reason. -/
theorem Client.build_alike (webhook webhook' : Url) :
    (∃ failure : Failure, Http.built = .error failure ∧
        build webhook = .error (.notDelivered (.noClient failure.account)) ∧
        build webhook' = .error (.notDelivered (.noClient failure.account))) ∨
      build webhook = .ok (forWebhook webhook) ∧ build webhook' = .ok (forWebhook webhook') := by
  cases built : Http.built with
  | error failure =>
    have unbuilt (url : Url) : build url = .error (.notDelivered (.noClient failure.account)) :=
      build_eq_error_iff.2 ⟨failure, built, rfl⟩
    exact .inl ⟨failure, rfl, unbuilt webhook, unbuilt webhook'⟩
  | ok _ => exact .inr ⟨build_eq_ok_iff.2 ⟨built, rfl⟩, build_eq_ok_iff.2 ⟨built, rfl⟩⟩

variable (strips : Http.StripsUrl)

include strips

theorem successOf_congr {back back' : Except Failure Answer} (alike : CameBackAlike back back') :
    successOf back = successOf back' := by
  cases alike with
  | answered answer => rfl
  | failed failure url' =>
    have same : failure.account = { failure with url := url' : Failure }.account :=
      Failure.account_congr strips rfl
    rw [successOf, successOf, same]

/-- **Of a webhook, a delivery shows the host alone.** -/
theorem deliver_sameButUrls {transport transport' : Transport} {webhook webhook' : Url}
    {notice : Notice} (host : webhook.hostText = webhook'.hostText)
    (alike : CameBackAlike (exchange transport (requestOf webhook notice))
      (exchange transport' (requestOf webhook' notice))) :
    (deliver transport webhook notice).SameButUrls (deliver transport' webhook' notice) := by
  have success := successOf_congr strips alike
  exact {
    events := by rw [events_deliver, events_deliver, host, success]
    requests := .cons (requestOf_sameButUrl ..) .nil
    result := by rw [result_deliver, result_deliver, success] }

end Delivery

/-! ### Whole runs -/

namespace Run

open Outcome

variable {files : Files.Source} {env : Environment} {run : Run}

theorem step_ok {α : Type} (value : α) : step (.ok value) = Pure.pure value := rfl

theorem findsWebhook_withWebhook {webhook : Option String} {found : Except Fault Url}
    (h : FindsWebhook files (run.withWebhook webhook) found) {base : Options}
    (settled : (baseOptions files run.optionsPath).result = .ok base) :
    Webhook.ofOptions (base.apply (run.withWebhook webhook).overrides) = found := by
  obtain ⟨o, given, rfl⟩ := h
  have settled : (baseOptions files (run.withWebhook webhook).optionsPath).result = .ok base :=
    settled
  rw [options, bind_of_ok settled] at given
  dsimp only at given
  rw [result_bind] at given
  split at given
  · simp at given
  · exact Except.ok.inj given ▸ rfl

variable [Delivery.Http]

/-- Sending, with the input for the webhook looked at last of the options. -/
theorem send_withWebhook_eq (transport : Delivery.Transport) (webhook : Option String) :
    send files transport env (run.withWebhook webhook) = do
      let base ← baseOptions files run.optionsPath
      step (base.apply run.overrides).validate
      let url ← step (Webhook.ofOptions (base.apply (run.withWebhook webhook).overrides))
      let client ← step (Delivery.Client.build url)
      let notice ← notice files env run (base.apply run.overrides)
      let status ← client.deliver transport notice
      return receiptOf client.url notice status := by
  unfold send options
  simp only [bind_assoc, pure_bind]
  rfl

variable (files run) in
/-- Two inputs for the webhook that differ in what must not show: with neither of them is there a
webhook, for the same reason, or both lead to one host and requests come to the same there. -/
inductive SameHost (transport transport' : Delivery.Transport) (webhook webhook' : Option String) :
    Prop where
  | refused (fault : Fault) (finds : FindsWebhook files (run.withWebhook webhook) (.error fault))
      (finds' : FindsWebhook files (run.withWebhook webhook') (.error fault))
  | accepted (url url' : Url) (finds : FindsWebhook files (run.withWebhook webhook) (.ok url))
      (finds' : FindsWebhook files (run.withWebhook webhook') (.ok url'))
      (host : url.hostText = url'.hostText)
      (alike : ∀ notice, Delivery.CameBackAlike
        (Delivery.exchange transport (Delivery.requestOf url notice))
        (Delivery.exchange transport' (Delivery.requestOf url' notice)))

variable {transport transport' : Delivery.Transport} {webhook webhook' : Option String}

/-- **Of the input for the webhook, sending shows the host alone, or why there is none.** -/
theorem send_withWebhook (strips : Delivery.Http.StripsUrl)
    (h : SameHost files run transport transport' webhook webhook') :
    (send files transport env (run.withWebhook webhook)).SameButUrls
      (send files transport' env (run.withWebhook webhook')) := by
  rw [send_withWebhook_eq, send_withWebhook_eq]
  -- Up to the point where the webhook is looked for, the two runs do the very same.
  refine (SameButUrls.refl _).bind fun base settled => (SameButUrls.refl _).bind fun _ _ => ?_
  cases h with
  | refused fault finds finds' =>
    rw [findsWebhook_withWebhook finds settled, findsWebhook_withWebhook finds' settled]
    exact .refl _
  | accepted url url' finds finds' host alike =>
    rw [findsWebhook_withWebhook finds settled, findsWebhook_withWebhook finds' settled]
    simp only [step_ok, pure_bind]
    rcases Delivery.Client.build_alike url url' with
      ⟨failure, -, unbuilt, unbuilt'⟩ | ⟨built, built'⟩
    · rw [unbuilt, unbuilt']
      exact .refl _
    · have receipts : receiptOf (Delivery.Client.forWebhook url).url =
          receiptOf (Delivery.Client.forWebhook url').url := by
        funext notice status
        exact congrArg (fun host => Receipt.mk (String.ofList host) _ status) host
      rw [built, built']
      simp only [step_ok, pure_bind]
      refine (SameButUrls.refl _).bind fun notice _ => ?_
      refine (Delivery.deliver_sameButUrls strips host (alike notice)).bind fun status _ => ?_
      rw [receipts]
      exact .refl _

end Run

theorem Outcome.SameButUrls.outcomeReport_eq {done done' : Outcome String}
    (h : done.SameButUrls done') (account : String) (filter : Log.Filter) :
    Program.outcomeReport account filter done = Program.outcomeReport account filter done' := by
  rw [Program.outcomeReport, Program.outcomeReport, h.events, h.result]

/-- **What the program prints, and its exit code, show the host of a webhook alone,** or why there
is none. -/
theorem Program.outcomeReport_withWebhook [Delivery.Http] (strips : Delivery.Http.StripsUrl)
    {files : Files.Source} {env : Environment} {run : Run}
    {transport transport' : Delivery.Transport} {webhook webhook' : Option String}
    (h : Run.SameHost files run transport transport' webhook webhook') (account : String)
    (filter : Log.Filter) :
    outcomeReport account filter
        ((CommandLine.Command.send (run.withWebhook webhook)).run files transport env) =
      outcomeReport account filter
        ((CommandLine.Command.send (run.withWebhook webhook')).run files transport' env) :=
  ((Run.send_withWebhook strips h).bind fun _ _ => .refl _).outcomeReport_eq account filter

/-! ### Credentials -/

/-- The message of a fault says what was attempted, and what the library says of a failure that is
about no URL. -/
def Fault.Tells [Delivery.Http] (fault : Fault) (attempt : String) (failure : Delivery.Failure) :
    Prop :=
  ∀ account, fault.message account =
    "Delivery failed: " ++ attempt ++ ": " ++ Delivery.Http.text { failure with url := none }

theorem Fault.tells_of_telling [Delivery.Http] (strips : Delivery.Http.StripsUrl)
    {flaw : DeliveryFlaw} {attempt : String} {failure : Delivery.Failure}
    (h : flaw.message = DeliveryFlaw.telling attempt failure.account) :
    (Fault.notDelivered flaw).Tells attempt failure := by
  intro account
  change "Delivery failed: " ++ flaw.message = _
  rw [h, DeliveryFlaw.telling, Delivery.Failure.account, strips]
  simp only [String.append_assoc]

/-- **The credentials in a webhook do not get out.** Of a webhook that is refused the message says
what for and nothing else. Of a webhook that is accepted a delivery shows the host alone: user,
port, path, query and fragment have no part in what is reported or in the result, whatever the
answer is or the failure to get one, and in nothing of the request but its URL. What is said of a
failure, of that to build a client as well, is said of it without a URL. -/
theorem Webhook.credentials_hidden [Delivery.Http] (strips : Delivery.Http.StripsUrl) :
    (∀ text, (∃ fault, ofText text = .error fault) ↔ ∃ reason, rejection? text = some reason) ∧
    (∀ text text' reason, rejection? text = some reason → rejection? text' = some reason →
      ∃ fault fault', ofText text = .error fault ∧ ofText text' = .error fault' ∧
        ∀ account, fault.message account = fault'.message account) ∧
    ∀ text text' url url', ofText text = .ok url → ofText text' = .ok url' →
      url.hostText = url'.hostText →
        (∃ failure fault, Delivery.Http.built = .error failure ∧
          Delivery.Client.build url = .error fault ∧ Delivery.Client.build url' = .error fault ∧
          fault.Tells "failed to create HTTP client" failure) ∨
        ∃ client client', Delivery.Client.build url = .ok client ∧
          Delivery.Client.build url' = .ok client' ∧
          ∀ notice transport transport',
            let back := Delivery.exchange transport (client.requestOf notice)
            let back' := Delivery.exchange transport' (client'.requestOf notice)
            Delivery.CameBackAlike back back' →
              (client.deliver transport notice).SameButUrls (client'.deliver transport' notice) ∧
              ∀ failure, back = .error failure →
                ∃ fault, (client.deliver transport notice).result = .error fault ∧
                  fault.Tells "request failed" failure := by
  refine ⟨fun text => ?_, fun text text' reason refused refused' => ?_, ?_⟩
  · constructor
    · rintro ⟨fault, refused⟩
      obtain ⟨reason, found, -⟩ := ofText_eq_error_iff.1 refused
      exact ⟨reason, found⟩
    · rintro ⟨reason, found⟩
      exact ⟨_, ofText_eq_error_iff.2 ⟨reason, found, rfl⟩⟩
  · exact ⟨reason.fault, reason.fault, ofText_eq_error_iff.2 ⟨reason, refused, rfl⟩,
      ofText_eq_error_iff.2 ⟨reason, refused', rfl⟩, fun _ => rfl⟩
  · intro text text' url url' _ _ host
    rcases Delivery.Client.build_alike url url' with
      ⟨failure, cannot, unbuilt, unbuilt'⟩ | ⟨built, built'⟩
    · exact .inl ⟨failure, _, cannot, unbuilt, unbuilt', Fault.tells_of_telling strips rfl⟩
    · refine .inr ⟨_, _, built, built', fun notice transport transport' alike => ?_⟩
      refine ⟨Delivery.deliver_sameButUrls strips host alike, fun failure failed => ?_⟩
      exact ⟨_, Delivery.result_deliver_of_failure failed, Fault.tells_of_telling strips rfl⟩

/-- Two texts with a secret each are refused alike. Of two webhooks of one host neither the
credentials nor the paths make a difference to how a refusal ends, nor to how it ends if there is no
answer: the library would show the URLs of the two failures, the program does not. So it is with a
library that cannot build a client. -/
theorem Webhook.credentials_hidden_example :
    let answer : Delivery.Answer := ⟨400, some [0x6e, 0x6f]⟩
    let notice : Notice := ⟨"", []⟩
    let silent : Delivery.Transport := fun _ => none
    (∃ fault fault', ofText "ftp://a:one@[::1]/" = .error fault ∧
      ofText " FTP://[::1]/two" = .error fault' ∧
      ∀ account, fault.message account = fault'.message account) ∧
    ∃ url url', ofText "https://a:one@[::1]:8443/hook?key=two#x" = .ok url ∧
      ofText "http://[::1]/three" = .ok url' ∧ url ≠ url' ∧
      (∃ client client', Delivery.Client.build url = .ok client ∧
        Delivery.Client.build url' = .ok client' ∧
        (client.deliver (fun _ => some answer) notice).SameButUrls
          (client'.deliver (fun _ => some answer) notice) ∧
        (client.deliver silent notice).SameButUrls (client'.deliver silent notice) ∧
        (Delivery.Http.failure (client.requestOf notice)).text ≠
          (Delivery.Http.failure (client'.requestOf notice)).text ∧
        ∃ fault, (client.deliver silent notice).result = .error fault ∧
          ∀ account, fault.message account =
            "Delivery failed: request failed: error sending request") ∧
      ∃ _ : Delivery.Http, Delivery.Http.built = .error ⟨.builder, some url⟩ ∧
        ∃ fault, Delivery.Client.build url = .error fault ∧
          Delivery.Client.build url' = .error fault ∧
          ∀ account, fault.message account =
            "Delivery failed: failed to create HTTP client: builder error" := by
  intro answer notice silent
  let url : Url :=
    ⟨.https, ⟨"a:one".toList, .ipv6 [0, 0, 0, 0, 0, 0, 0, 1], some 8443⟩, ["hook".toList],
      some "key=two".toList, some "x".toList⟩
  let url' : Url :=
    ⟨.http, ⟨[], .ipv6 [0, 0, 0, 0, 0, 0, 0, 1], none⟩, ["three".toList], none, none⟩
  have read : ofText "https://a:one@[::1]:8443/hook?key=two#x" = .ok url := by decide +kernel
  have read' : ofText "http://[::1]/three" = .ok url' := by decide +kernel
  obtain ⟨-, refused, accepted⟩ := credentials_hidden fun _ => rfl
  refine ⟨refused _ _ (.otherScheme .ftp) (by decide +kernel) (by decide +kernel), url, url', read,
    read', by decide, ?_, ?_⟩
  · rcases accepted _ _ _ _ read read' rfl with
      ⟨failure, fault, failed, -⟩ | ⟨client, client', built, built', alike⟩
    · simp [Delivery.Http.built] at failed
    · obtain ⟨-, rfl⟩ := Delivery.Client.build_eq_ok_iff.1 built
      obtain ⟨-, rfl⟩ := Delivery.Client.build_eq_ok_iff.1 built'
      obtain ⟨unanswered, told⟩ := alike notice silent silent (.failed _ _)
      obtain ⟨fault, failed, tells⟩ := told _ rfl
      refine ⟨_, _, built, built',
        (alike notice (fun _ => some answer) (fun _ => some answer) (.answered answer)).1,
        unanswered, ?_, fault, failed, ?_⟩
      · exact Delivery.Failure.text_eq_iff.not.2 (by decide +kernel)
      · intro account
        rw [tells]
        decide +kernel
  · let library : Delivery.Http :=
      { built := .error ⟨.builder, some url⟩
        failure := fun request => ⟨.request, some request.url⟩
        withoutUrl := fun failure => { failure with url := none }
        text := Delivery.Failure.text }
    refine ⟨library, rfl, ?_⟩
    rcases (credentials_hidden fun _ => rfl).2.2 _ _ _ _ read read' rfl with
      ⟨failure, fault, failed, unbuilt, unbuilt', tells⟩ | ⟨client, -, built, -⟩
    · obtain rfl := Except.error.inj failed
      refine ⟨fault, unbuilt, unbuilt', fun account => ?_⟩
      rw [tells]
      decide +kernel
    · simp [Delivery.Client.build_eq_ok_iff] at built

end PushNotice
