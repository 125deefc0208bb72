import PushNotice.Delivery.Request

/-!
# PushNotice.Delivery.Http

**The library that makes requests.** It may not be able to build a client, and it fails where a
request gets no answer. A failure knows what it is about, and that may be the URL of a request; what
it says is for the library to word. The program says what the library says of a failure, and leaves
the URL out first (`Failure.account`).

The library is a parameter of whatever makes requests (`Http`). That `Http.withoutUrl` does what its
name says is no part of it: what relies on that has `Http.StripsUrl` as a hypothesis.
-/

namespace PushNotice.Delivery

/-- What was being done when the library failed. -/
inductive Failure.Kind where
  | builder
  | request
  | redirect
  | body
  | decode
  | upgrade
deriving DecidableEq, Repr

/-- A failure of the library. -/
structure Failure where
  kind : Failure.Kind
  /-- The URL that the failure is about, if it is about one. -/
  url : Option Url
deriving DecidableEq, Repr

/-- A library that makes requests. -/
class Http where
  /-- Whether a client can be built, or why not. -/
  built : Except Failure Unit
  /-- How a request fails that gets no answer. -/
  failure : Request → Failure
  /-- The failure, to be told without its URL. -/
  withoutUrl : Failure → Failure
  /-- What the library says of a failure. -/
  text : Failure → String

/-- A failure that is to be told without its URL is the same, but has none. -/
def Http.StripsUrl [Http] : Prop :=
  ∀ failure : Failure, Http.withoutUrl failure = { failure with url := none }

section

variable [Http]

/-- What the program says of a failure. -/
def Failure.account (failure : Failure) : String :=
  Http.text (Http.withoutUrl failure)

/-- What a request comes to: its answer, or the failure to get one. -/
def exchange (transport : Transport) (request : Request) : Except Failure Answer :=
  match transport request with
  | some answer => .ok answer
  | none => .error (Http.failure request)

/-- The URL has no part in what is said of a failure. -/
theorem Failure.account_congr (strips : Http.StripsUrl) {failure failure' : Failure}
    (same : failure.kind = failure'.kind) : failure.account = failure'.account := by
  rw [account, account, strips, strips, same]

theorem exchange_eq_ok_iff {transport : Transport} {request : Request} {answer : Answer} :
    exchange transport request = .ok answer ↔ transport request = some answer := by
  cases answered : transport request <;> simp [exchange, answered]

theorem exchange_eq_error_iff {transport : Transport} {request : Request} {failure : Failure} :
    exchange transport request = .error failure ↔
      transport request = none ∧ Http.failure request = failure := by
  cases answered : transport request <;> simp [exchange, answered]

end

/-! ### The library in use -/

/-- The words for what was being done. -/
def Failure.Kind.text : Kind → String
  | .builder => "builder error"
  | .request => "error sending request"
  | .redirect => "error following redirect"
  | .body => "request or response body error"
  | .decode => "error decoding response body"
  | .upgrade => "error upgrading connection"

/-- The words for a failure, with its URL if it has one. -/
def Failure.text (failure : Failure) : String :=
  match failure.url with
  | none => failure.kind.text
  | some url => failure.kind.text ++ " for url (" ++ String.ofList url.text ++ ")"

/-- The words for a failure show the URL that it is about. -/
theorem Failure.text_eq_iff {kind : Kind} {url url' : Url} :
    (Failure.mk kind (some url)).text = (Failure.mk kind (some url')).text ↔
      url.text = url'.text := by
  simp [text, String.ofList_inj]

/-- The library that the program is built with: it has a client, and fails in sending a request
that gets no answer. -/
instance : Http where
  built := .ok ()
  failure request := ⟨.request, some request.url⟩
  withoutUrl failure := { failure with url := none }
  text := Failure.text

end PushNotice.Delivery
