import PushNotice.Delivery.Answer
import PushNotice.Json.Writer
import PushNotice.Notice
import PushNotice.Outcome
import PushNotice.Release
import PushNotice.Webhook

/-!
# PushNotice.Delivery

**Delivering a notice.** A client is built for a webhook, and a notice is delivered with one request
of it. Whatever the answer to it is, or if there is none, no other request follows.
-/

namespace PushNotice.Delivery

/-- The name under which requests are made. -/
def userAgent : String := programName ++ "/" ++ version

/-! ### Clients -/

/-- A client, which makes requests to one URL. -/
structure Client where
  url : Url
deriving DecidableEq, Repr

namespace Client

/-- The client for a webhook. -/
def forWebhook (webhook : Url) : Client :=
  ⟨Webhook.withWait webhook⟩

/-- Builds the client for a webhook. -/
def build [Http] (webhook : Url) : Except Fault Client :=
  match Http.built with
  | .error failure => .error (.notDelivered (.noClient failure.account))
  | .ok () => .ok (forWebhook webhook)

/-- The request that delivers a notice. -/
def requestOf (client : Client) (notice : Notice) : Request where
  method := "POST"
  url := client.url
  contentType := "application/json"
  event := "push"
  userAgent := userAgent
  body := notice.toJson.compact

end Client

/-! ### Deliveries -/

/-- The reports on a delivery that are made once it is known what came of the request. -/
def answerEvents : Except DeliveryFlaw Nat → List Log.Event
  | .ok status => [.delivered status]
  | .error _ => []

/-- Delivers a notice; gives the status of the answer. -/
def Client.deliver [Http] (client : Client) (transport : Transport) (notice : Notice) :
    Outcome Nat :=
  let request := client.requestOf notice
  let success := successOf (exchange transport request)
  { events :=
      .posting (String.ofList client.url.hostText) notice.embeds.length :: answerEvents success
    requests := [request]
    result := success.mapError .notDelivered }

/-- The request that delivers a notice to a webhook. -/
def requestOf (webhook : Url) (notice : Notice) : Request :=
  (Client.forWebhook webhook).requestOf notice

/-- Delivers a notice with the client for a webhook; gives the status of the answer. -/
def deliver [Http] (transport : Transport) (webhook : Url) (notice : Notice) : Outcome Nat :=
  (Client.forWebhook webhook).deliver transport notice

section

variable [Http]

theorem events_deliver (transport : Transport) (webhook : Url) (notice : Notice) :
    (deliver transport webhook notice).events =
      .posting (String.ofList webhook.hostText) notice.embeds.length ::
        answerEvents (successOf (exchange transport (requestOf webhook notice))) := rfl

/-- The result of a delivery is what is made of what the request comes to. -/
theorem result_deliver (transport : Transport) (webhook : Url) (notice : Notice) :
    (deliver transport webhook notice).result =
      (successOf (exchange transport (requestOf webhook notice))).mapError .notDelivered := rfl

theorem result_deliver_of_failure {transport : Transport} {webhook : Url} {notice : Notice}
    {failure : Failure} (failed : exchange transport (requestOf webhook notice) = .error failure) :
    (deliver transport webhook notice).result =
      .error (.notDelivered (.noAnswer failure.account)) := by
  rw [result_deliver, failed]
  rfl

/-! ### Building clients -/

variable {webhook : Url}

/-- A client that is built is the one for the webhook. -/
theorem Client.build_eq_ok_iff {client : Client} :
    build webhook = .ok client ↔ Http.built = .ok () ∧ forWebhook webhook = client := by
  unfold build
  cases Http.built <;> simp

/-- Whether a client is built has nothing to do with the webhook. -/
theorem Client.build_eq_error_iff {fault : Fault} :
    build webhook = .error fault ↔
      ∃ failure : Failure, Http.built = .error failure ∧
        .notDelivered (.noClient failure.account) = fault := by
  unfold build
  cases Http.built <;> simp

theorem Client.build_ne_error (built : Http.built = .ok ()) {fault : Fault} :
    build webhook ≠ .error fault := by
  intro unbuilt
  obtain ⟨failure, failed, -⟩ := build_eq_error_iff.1 unbuilt
  rw [built] at failed
  simp at failed

end

end PushNotice.Delivery
