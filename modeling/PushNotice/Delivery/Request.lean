import PushNotice.Url.Basic

/-!
# PushNotice.Delivery.Request

**Requests and answers.** What is sent to a webhook, and what comes back. A transport is any way
of getting an answer to a request, or none; what it means that there is none is not for the
transport to say.
-/

namespace PushNotice.Delivery

/-- A request to a server. -/
structure Request where
  method : String
  url : Url
  contentType : String
  /-- The kind of event that the request is about. -/
  event : String
  userAgent : String
  body : String
deriving DecidableEq, Repr

/-- The part of the URL of a request that is sent to its host. -/
def Request.target (request : Request) : List Char :=
  request.url.pathText ++ Url.markedText '?' request.url.query

/-- The answer of a server. The body is missing if it cannot be read to its end. -/
structure Answer where
  status : Nat
  body : Option (List UInt8)
deriving DecidableEq, Repr

/-- A way of making requests. There may be no answer to one. -/
abbrev Transport := Request → Option Answer

end PushNotice.Delivery
