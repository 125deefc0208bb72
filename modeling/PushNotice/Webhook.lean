import PushNotice.Options.Basic
import PushNotice.Text.Blank
import PushNotice.Url.Reader

/-!
# PushNotice.Webhook

**Where notices go.** A webhook is a URL with the scheme `http` or `https`. A request to it asks
the other side to wait until the notice is there.
-/

namespace PushNotice.Webhook

/-- The URL that a webhook is written as; blanks around it do not count. -/
def ofText (text : String) : Except Fault Url :=
  match Url.Reference.ofText (Text.trim text.toList) with
  | .error cause => .error (.webhookMalformed cause)
  | .ok (.other scheme) => .error (.webhookScheme (String.ofList scheme.name))
  | .ok (.web url) =>
    match url.scheme with
    | .http | .https => .ok url
    | scheme => .error (.webhookScheme (String.ofList scheme.name))

/-- The URL of the webhook that options name. -/
def ofOptions (o : Options) : Except Fault Url :=
  match o.webhook with
  | none => .error .webhookMissing
  | some text => ofText text

/-- The name of the pair that asks to wait. -/
def waitName : String := "wait"

/-- The pairs with those named `wait` replaced by one that asks to wait. -/
def waitPairs (pairs : List Url.Pair) : List Url.Pair :=
  pairs.filter (·.1 != waitName) ++ [(waitName, "true")]

/-- The URL that requests go to. -/
def withWait (url : Url) : Url :=
  url.withPairs (waitPairs url.queryPairs)

end PushNotice.Webhook
