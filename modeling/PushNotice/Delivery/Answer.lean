import PushNotice.Delivery.Http
import PushNotice.Fault
import PushNotice.Text.Blank
import PushNotice.Text.Utf8

/-!
# PushNotice.Delivery.Answer

**What an answer means.** A notice is delivered if the status of the answer is one of success.
Any other answer is a refusal; it is quoted with the usual reason for its status and the start of
its body. Of an answer of success the body is not looked at. Where there is no answer, it is said
what the library says of that.
-/

namespace PushNotice.Delivery

/-! ### Statuses -/

/-- The usual reasons for statuses. -/
def reasons : List (Nat × String) := [
  (100, "Continue"),
  (101, "Switching Protocols"),
  (102, "Processing"),
  (103, "Early Hints"),
  (200, "OK"),
  (201, "Created"),
  (202, "Accepted"),
  (203, "Non Authoritative Information"),
  (204, "No Content"),
  (205, "Reset Content"),
  (206, "Partial Content"),
  (207, "Multi-Status"),
  (208, "Already Reported"),
  (226, "IM Used"),
  (300, "Multiple Choices"),
  (301, "Moved Permanently"),
  (302, "Found"),
  (303, "See Other"),
  (304, "Not Modified"),
  (305, "Use Proxy"),
  (307, "Temporary Redirect"),
  (308, "Permanent Redirect"),
  (400, "Bad Request"),
  (401, "Unauthorized"),
  (402, "Payment Required"),
  (403, "Forbidden"),
  (404, "Not Found"),
  (405, "Method Not Allowed"),
  (406, "Not Acceptable"),
  (407, "Proxy Authentication Required"),
  (408, "Request Timeout"),
  (409, "Conflict"),
  (410, "Gone"),
  (411, "Length Required"),
  (412, "Precondition Failed"),
  (413, "Payload Too Large"),
  (414, "URI Too Long"),
  (415, "Unsupported Media Type"),
  (416, "Range Not Satisfiable"),
  (417, "Expectation Failed"),
  (418, "I'm a teapot"),
  (421, "Misdirected Request"),
  (422, "Unprocessable Entity"),
  (423, "Locked"),
  (424, "Failed Dependency"),
  (425, "Too Early"),
  (426, "Upgrade Required"),
  (428, "Precondition Required"),
  (429, "Too Many Requests"),
  (431, "Request Header Fields Too Large"),
  (451, "Unavailable For Legal Reasons"),
  (500, "Internal Server Error"),
  (501, "Not Implemented"),
  (502, "Bad Gateway"),
  (503, "Service Unavailable"),
  (504, "Gateway Timeout"),
  (505, "HTTP Version Not Supported"),
  (506, "Variant Also Negotiates"),
  (507, "Insufficient Storage"),
  (508, "Loop Detected"),
  (510, "Not Extended"),
  (511, "Network Authentication Required")]

/-- The reason for a status. -/
def reason (status : Nat) : String :=
  (reasons.lookup status).getD "Unknown error"

/-- Whether a status is one of success. -/
def isSuccess (status : Nat) : Bool :=
  200 ≤ status && status ≤ 299

theorem isSuccess_iff {status : Nat} : isSuccess status = true ↔ 200 ≤ status ∧ status ≤ 299 := by
  simp [isSuccess]

/-! ### Bodies -/

/-- A refusal quotes at most this many characters of a body. -/
def maxQuoted : Nat := 512

/-- A text, cut if it is too long to be quoted. -/
def excerpt (cs : List Char) : List Char :=
  if cs.length ≤ maxQuoted then cs else cs.take maxQuoted ++ "...".toList

/-- What a refusal quotes of a body. A body that cannot be read counts as empty. -/
def quotedBody (body : Option (List UInt8)) : String :=
  String.ofList (excerpt (Text.trim (Text.decodeLossy (body.getD [])).toList))

/-! ### Answers -/

/-- The flaw that an answer without success is. -/
def Answer.refusal (answer : Answer) : DeliveryFlaw :=
  .refused answer.status (reason answer.status) (quotedBody answer.body)

/-- The status of success that a request got, or why there is none. -/
def successOf [Http] : Except Failure Answer → Except DeliveryFlaw Nat
  | .error failure => .error (.noAnswer failure.account)
  | .ok answer => if isSuccess answer.status then .ok answer.status else .error answer.refusal

end PushNotice.Delivery
