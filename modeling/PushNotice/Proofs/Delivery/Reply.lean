import PushNotice.Delivery
import PushNotice.Proofs.Json.RoundTrip
import PushNotice.Proofs.Result
import PushNotice.Proofs.Text.Decoding

/-!
# PushNotice.Proofs.Delivery.Reply

**A delivery is one request, and its answer is taken as it is.** The body of the request is read as
the notice again (`ofText?_body`). What counts of an answer is its status; only of one that is no
success is the body looked at, and then the fault quotes its start (`quotedAs_excerpt`). The text is
cut between two characters, wherever that is in its bytes.
-/

namespace PushNotice

/-! ### The body of the request -/

theorem Json.Exact.notice {notice : Notice} (h : ∀ embed ∈ notice.embeds, embed.Exact) :
    notice.toJson.Exact := by
  have distinct : ["content", "embeds"].Nodup := by decide
  refine .object distinct (List.forall_mem_cons.2 ⟨.string _, ?_⟩)
  exact List.forall_mem_singleton.2 (.array h)

/-- A notice nests two levels deeper than its embeds. -/
theorem Notice.depth_toJson_le {notice : Notice} {levels : Nat}
    (h : ∀ embed ∈ notice.embeds, embed.depth ≤ levels) : notice.toJson.depth ≤ levels + 2 := by
  have items := Json.depthItems_le_iff.2 h
  simp only [toJson, Json.depth, Json.depthMembers]
  omega

namespace Delivery

/-- **The body of a request is read as the notice.** -/
theorem ofText?_body (webhook : Url) {notice : Notice}
    (h : ∀ embed ∈ notice.embeds, embed.Exact ∧ embed.depth ≤ 125) :
    Json.ofText? (requestOf webhook notice).body = some notice.toJson := by
  have shallow : notice.toJson.depth ≤ 125 + 2 :=
    Notice.depth_toJson_le fun embed mem => (h embed mem).2
  exact Json.ofText?_compact (.notice fun embed mem => (h embed mem).1) shallow

/-! ### What is quoted of a text -/

/-- A text and what is quoted of it: all of it, or the characters that are allowed and dots. The
bytes of the text are cut where these characters end. -/
inductive QuotedAs (whole : String) : String → Prop where
  | entire (fits : whole.length ≤ 512) : QuotedAs whole whole
  | cut (first : String) (offset : Nat) (long : 512 < whole.length) (full : first.length = 512)
      (starts : first.toList <+: whole.toList)
      (between : Text.decode? ((Text.encode whole).take offset) = some first) :
      QuotedAs whole (first ++ "...")

theorem quotedAs_excerpt (whole : String) :
    QuotedAs whole (String.ofList (excerpt whole.toList)) := by
  unfold excerpt maxQuoted
  by_cases fits : whole.toList.length ≤ 512
  · rw [if_pos fits, String.ofList_toList]
    exact .entire fits
  · have long : 512 < whole.toList.length := Nat.lt_of_not_le fits
    let first := String.ofList (whole.toList.take 512)
    have begins : first.toList = whole.toList.take 512 := String.toList_ofList
    have bytes : Text.encode whole = Text.encode first ++ Text.encodeChars (whole.toList.drop 512) := by
      rw [Text.encode, Text.encode, begins, ← Text.encodeChars_append, List.take_append_drop]
    rw [if_neg fits, String.ofList_append, String.ofList_toList]
    refine .cut first (Text.encode first).length long ?_ ?_ ?_
    · rw [← String.length_toList, begins, List.length_take]
      omega
    · rw [begins]
      exact List.take_prefix 512 _
    · rw [bytes, List.take_left, Text.decode?_encode]

theorem excerpt_eq_nil_iff {cs : List Char} : excerpt cs = [] ↔ cs = [] := by
  unfold excerpt
  split
  · rfl
  · next long =>
    constructor
    · intro none
      simp at none
    · rintro rfl
      exact absurd (Nat.zero_le maxQuoted) long

/-! ### What an answer means -/

/-- What the body of an answer says, if it can be read, without the blanks around it. -/
def Answer.account (answer : Answer) : String :=
  Text.trimmed (Text.decodeLossy (answer.body.getD []))

theorem quotedBody_eq (answer : Answer) :
    quotedBody answer.body = String.ofList (excerpt answer.account.toList) := by
  rw [quotedBody, Answer.account, Text.trimmed, String.toList_ofList]

theorem isEmpty_quotedBody_iff {answer : Answer} :
    (quotedBody answer.body).isEmpty = true ↔ answer.account = "" := by
  rw [quotedBody_eq, String.isEmpty_iff, ← String.toList_inj, String.toList_ofList,
    String.toList_empty, excerpt_eq_nil_iff, ← String.toList_inj, String.toList_empty]

/-- The fault quotes an answer: its status, the reason for that and, if the body says anything, what
is quoted of it. -/
def Answer.QuotedBy (answer : Answer) (fault : Fault) : Prop :=
  ∃ quoted, QuotedAs answer.account quoted ∧ ∀ account, fault.message account =
    "Delivery failed: webhook responded with HTTP " ++ toString answer.status ++ " " ++
      reason answer.status ++ if answer.account = "" then "" else ": " ++ quoted

theorem quotedBy_refusal (answer : Answer) : answer.QuotedBy (.notDelivered answer.refusal) := by
  refine ⟨quotedBody answer.body, quotedBody_eq answer ▸ quotedAs_excerpt _, fun account => ?_⟩
  change "Delivery failed: " ++ answer.refusal.message = _
  simp only [Answer.refusal, DeliveryFlaw.message]
  by_cases silent : answer.account = ""
  · simp [isEmpty_quotedBody_iff.2 silent, silent, ← String.append_assoc]
  · have spoken : (quotedBody answer.body).isEmpty = false :=
      Bool.eq_false_iff.2 fun empty => silent (isEmpty_quotedBody_iff.1 empty)
    simp [spoken, silent, DeliveryFlaw.telling, ← String.append_assoc]

section

variable [Http] {transport transport' : Transport} {webhook : Url} {notice : Notice}

/-- Success is the status of an answer that has one of success. -/
theorem successOf_eq_ok_iff {back : Except Failure Answer} {status : Nat} :
    successOf back = .ok status ↔
      ∃ answer, back = .ok answer ∧ answer.status = status ∧ 200 ≤ status ∧ status ≤ 299 := by
  cases back with
  | error failure => simp [successOf]
  | ok answer =>
    simp only [Except.ok.injEq, exists_eq_left', successOf]
    by_cases success : isSuccess answer.status = true
    · have range := isSuccess_iff.1 success
      rw [if_pos success, Except.ok.injEq]
      constructor
      · rintro rfl
        exact ⟨rfl, range⟩
      · exact And.left
    · rw [if_neg success]
      constructor
      · intro ok
        simp at ok
      · rintro ⟨rfl, range⟩
        exact absurd (isSuccess_iff.2 range) success

/-- A delivery goes well exactly if its one request gets an answer of success. -/
theorem result_deliver_eq_ok_iff {status : Nat} :
    (deliver transport webhook notice).result = .ok status ↔
      ∃ answer, transport (requestOf webhook notice) = some answer ∧
        answer.status = status ∧ 200 ≤ status ∧ status ≤ 299 := by
  rw [result_deliver, mapError_eq_ok_iff, successOf_eq_ok_iff]
  simp only [exchange_eq_ok_iff]

theorem result_deliver_of_refusal {answer : Answer}
    (answered : transport (requestOf webhook notice) = some answer)
    (refused : ¬ (200 ≤ answer.status ∧ answer.status ≤ 299)) :
    (deliver transport webhook notice).result = .error (.notDelivered answer.refusal) := by
  have failed : isSuccess answer.status = false :=
    Bool.eq_false_iff.2 fun success => refused (isSuccess_iff.1 success)
  simp [result_deliver, exchange_eq_ok_iff.2 answered, successOf, failed, Except.mapError]

/-- Of two answers that mean the same a delivery makes the same. -/
theorem deliver_congr
    (h : successOf (exchange transport (requestOf webhook notice)) =
      successOf (exchange transport' (requestOf webhook notice))) :
    deliver transport webhook notice = deliver transport' webhook notice := by
  change successOf (exchange transport ((Client.forWebhook webhook).requestOf notice)) = _ at h
  simp only [deliver, Client.deliver, h]
  rfl

theorem successOf_congr_body {status : Nat} (low : 200 ≤ status) (high : status ≤ 299)
    (body body' : Option (List UInt8)) :
    successOf (.ok ⟨status, body⟩) = successOf (.ok ⟨status, body'⟩) := by
  have success : isSuccess status = true := isSuccess_iff.2 ⟨low, high⟩
  simp [successOf, success]

end

/-- **A delivery is one request, and its answer is taken as it is.** Whatever comes back, there is one
request, and its body is read as the notice again. An answer with a status of success gives this
status, and its body is not looked at. Any other answer is a fault of delivery that quotes it, and a
body that cannot be read says nothing. So is it if there is no answer. -/
theorem deliver_faithful [Http] (transport : Transport) (webhook : Url) (notice : Notice) :
    let request := requestOf webhook notice
    let done := deliver transport webhook notice
    (done.requests = [request] ∧ request.method = "POST" ∧
      request.url = Webhook.withWait webhook) ∧
    ((∀ embed ∈ notice.embeds, embed.Exact ∧ embed.depth ≤ 125) →
      Json.ofText? request.body =
        some (.object [("content", .string notice.content), ("embeds", .array notice.embeds)])) ∧
    (∀ status, done.result = .ok status ↔
      ∃ answer, transport request = some answer ∧ answer.status = status ∧
        200 ≤ status ∧ status ≤ 299) ∧
    (∀ answer, transport request = some answer → ¬ (200 ≤ answer.status ∧ answer.status ≤ 299) →
      ∃ fault, done.result = .error fault ∧ fault.kind = .delivery ∧ answer.QuotedBy fault) ∧
    (transport request = none → ∃ fault, done.result = .error fault ∧ fault.kind = .delivery) ∧
    (∀ status, 200 ≤ status → status ≤ 299 → ∀ body body',
      deliver (fun _ => some ⟨status, body⟩) webhook notice =
        deliver (fun _ => some ⟨status, body'⟩) webhook notice) ∧
    ∀ status, deliver (fun _ => some ⟨status, none⟩) webhook notice =
      deliver (fun _ => some ⟨status, some []⟩) webhook notice := by
  intro request done
  refine ⟨⟨rfl, rfl, rfl⟩, fun h => ofText?_body webhook h, fun status => result_deliver_eq_ok_iff,
    ?_, ?_, ?_, fun _ => rfl⟩
  · intro answer answered refused
    exact ⟨_, result_deliver_of_refusal answered refused, rfl, quotedBy_refusal answer⟩
  · intro unanswered
    exact ⟨_, result_deliver_of_failure (exchange_eq_error_iff.2 ⟨unanswered, rfl⟩), rfl⟩
  · intro status low high body body'
    exact deliver_congr (successOf_congr_body low high body body')

/-- A refusal with a body that is too long, of characters of two bytes; no answer at all; and two
answers of success with other bodies. -/
theorem deliver_faithful_long_refusal :
    let webhook : Url := ⟨.http, ⟨[], .ipv6 [0, 0, 0, 0, 0, 0, 0, 1], none⟩, [[]], none, none⟩
    let notice : Notice := ⟨"é\n", [.object [("n", .number (.integer (-1)))]]⟩
    let body := String.ofList (List.replicate 600 'é')
    let refusing : Transport := fun _ => some ⟨500, some (Text.encode body)⟩
    Json.ofText? (requestOf webhook notice).body =
      some (.object [("content", .string "é\n"),
        ("embeds", .array [.object [("n", .number (.integer (-1)))]])]) ∧
    (∃ fault, (deliver refusing webhook notice).result = .error fault ∧ fault.message "" =
      "Delivery failed: webhook responded with HTTP 500 Internal Server Error: " ++
        (String.ofList (List.replicate 512 'é') ++ "...")) ∧
    (∃ fault, (deliver (fun _ => none) webhook notice).result = .error fault ∧
      fault.kind = .delivery) ∧
    deliver (fun _ => some ⟨204, none⟩) webhook notice =
      deliver (fun _ => some ⟨204, some [0x6f]⟩) webhook notice := by
  intro webhook notice body refusing
  have exact : ∀ embed ∈ notice.embeds, embed.Exact ∧ embed.depth ≤ 125 := by
    refine List.forall_mem_singleton.2 ⟨.object (by decide) ?_, by decide⟩
    exact List.forall_mem_singleton.2 (.integer (by decide) (by decide))
  have account : (Answer.mk 500 (some (Text.encode body))).account = body := by
    have solid : Text.trim (List.replicate 600 'é') = List.replicate 600 'é' :=
      Text.trim_eq_self fun c mem => (List.eq_of_mem_replicate mem).symm ▸ by decide
    rw [Answer.account, Option.getD_some, Text.decodeLossy_encode, Text.trimmed,
      String.toList_ofList, solid]
  obtain ⟨-, read, -, refused, -⟩ := deliver_faithful refusing webhook notice
  obtain ⟨fault, failed, -, quoted, quotes, message⟩ := refused _ rfl (by decide)
  rw [account] at quotes message
  have length : body.length = 600 := by
    rw [← String.length_toList, String.toList_ofList, List.length_replicate]
  have cut : quoted = String.ofList (List.replicate 512 'é') ++ "..." := by
    cases quotes with
    | entire fits => omega
    | cut first offset long full starts between =>
      rw [String.toList_ofList, List.prefix_replicate_iff, String.length_toList, full] at starts
      rw [← String.ofList_toList (s := first), starts.2]
  refine ⟨read exact, ⟨fault, failed, ?_⟩, ?_, ?_⟩
  · have some_account : body ≠ "" := by
      intro empty
      rw [empty] at length
      simp at length
    have lead : "Delivery failed: webhook responded with HTTP " ++ toString 500 ++ " " ++
        reason 500 ++ ": " =
          "Delivery failed: webhook responded with HTTP 500 Internal Server Error: " := by
      decide
    rw [message, if_neg some_account, cut, ← String.append_assoc, lead]
  · exact (deliver_faithful (fun _ => none) webhook notice).2.2.2.2.1 rfl
  · exact (deliver_faithful refusing webhook notice).2.2.2.2.2.1 204 (by decide) (by decide) none _

end Delivery

end PushNotice
