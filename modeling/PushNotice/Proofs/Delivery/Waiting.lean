import Mathlib
import PushNotice.Delivery
import PushNotice.Proofs.Url.Spelling

/-!
# PushNotice.Proofs.Delivery.Waiting

**The URL of a request asks to wait, once.** Apart from its query it is the URL of the webhook. The
pairs of its query are those of the webhook that have another name than `wait`, and then the one
that asks to wait (`queryPairs_withWait`). Pairs are read before they are looked at, so that the
spelling of a name makes no difference; and asking twice is asking once (`withWait_withWait`).
-/

namespace PushNotice

/-- The pairs of a URL are read back when they were put there. -/
theorem Url.queryPairs_withPairs (url : Url) (pairs : List Pair) :
    (url.withPairs pairs).queryPairs = pairs :=
  readPairs_writePairs pairs

namespace Webhook

open Url (Pair readPairs)

/-! ### Pairs -/

/-- Pairs that are named `wait` make no difference, wherever they stand. -/
theorem waitPairs_of_waiting (before after : List Pair) {waiting : List Pair}
    (h : ∀ pair ∈ waiting, pair.1 = waitName) :
    waitPairs (before ++ waiting ++ after) = waitPairs (before ++ after) := by
  have dropped : waiting.filter (·.1 != waitName) = [] :=
    List.filter_eq_nil_iff.2 fun pair mem => by simp [h pair mem]
  simp [waitPairs, List.filter_append, dropped]

theorem filter_waitPairs (pairs : List Pair) :
    (waitPairs pairs).filter (·.1 == waitName) = [(waitName, "true")] := by
  have others : (pairs.filter (·.1 != waitName)).filter (·.1 == waitName) = [] := by
    refine List.filter_eq_nil_iff.2 fun pair mem => ?_
    have other := (List.mem_filter.1 mem).2
    simpa using other
  rw [waitPairs, List.filter_append, others]
  rfl

theorem waitPairs_waitPairs (pairs : List Pair) : waitPairs (waitPairs pairs) = waitPairs pairs := by
  have asking : [(waitName, "true")].filter (·.1 != waitName) = [] := rfl
  rw [waitPairs, waitPairs, List.filter_append, List.filter_filter, asking, List.append_nil]
  simp only [Bool.and_self]

/-! ### URLs -/

theorem queryPairs_withWait (url : Url) :
    (withWait url).queryPairs = url.queryPairs.filter (·.1 != waitName) ++ [(waitName, "true")] :=
  Url.queryPairs_withPairs url (waitPairs url.queryPairs)

/-- Of the query only the pairs count that are read from it. -/
theorem withWait_congr {url url' : Url} (others : { url with query := url'.query } = url')
    (pairs : waitPairs url.queryPairs = waitPairs url'.queryPairs) : withWait url = withWait url' := by
  rw [withWait, withWait, pairs, ← others]
  rfl

theorem withWait_withWait (url : Url) : withWait (withWait url) = withWait url := by
  refine withWait_congr rfl ?_
  rw [withWait, Url.queryPairs_withPairs, waitPairs_waitPairs]

/-- **A request asks to wait, once, and keeps all else.** The URL of the one request of a delivery is
that of the webhook but for its query. Its pairs are those of the webhook in their order, without
those named `wait`, and one that asks to wait behind them. A piece of the query whose name spells
`wait` makes no difference, whatever spelling it has, wherever it stands and whatever its value is.
The URL of a request is one that asks to wait already. -/
theorem withWait_asks_once [Delivery.Http] (url : Url) :
    (∀ transport notice,
      (Delivery.deliver transport url notice).requests.map (·.url) = [withWait url]) ∧
    (withWait url).queryPairs = url.queryPairs.filter (·.1 != "wait") ++ [("wait", "true")] ∧
    (withWait url).queryPairs.filter (·.1 == "wait") = [("wait", "true")] ∧
    (∀ before piece after, Url.Names "wait" piece → '&' ∉ piece →
      withWait { url with query := some (['&'].intercalate (before ++ piece :: after)) } =
        withWait { url with query := some (['&'].intercalate (before ++ after)) }) ∧
    ((withWait url).scheme = url.scheme ∧ (withWait url).authority = url.authority ∧
      (withWait url).segments = url.segments ∧ (withWait url).fragment = url.fragment) ∧
    withWait (withWait url) = withWait url := by
  refine ⟨fun _ _ => rfl, queryPairs_withWait url, ?_, ?_, ⟨rfl, rfl, rfl, rfl⟩,
    withWait_withWait url⟩
  · rw [withWait, Url.queryPairs_withPairs]
    exact filter_waitPairs url.queryPairs
  · intro before piece after named whole
    refine withWait_congr rfl ?_
    simp only [Url.queryPairs, Option.getD_some, Url.readPairs_intercalate, List.flatMap_append,
      List.flatMap_cons, ← List.append_assoc]
    exact waitPairs_of_waiting _ _ fun pair mem => named.of_mem_readPairs whole mem

/-- A webhook with a pair twice and a name that is spelled with a percent sign. -/
theorem withWait_asks_once_spelled :
    let url : Url :=
      ⟨.https, ⟨"u:p".toList, .ipv6 [0, 0, 0, 0, 0, 0, 0, 1], some 8443⟩, ["hook".toList],
        some "x=1&w%61it=0&x=1&y=%26+".toList, some "f".toList⟩
    ofText "https://u:p@[::1]:8443/hook?x=1&w%61it=0&x=1&y=%26+#f" = .ok url ∧
    Url.Names "wait" "w%61it=0".toList ∧
    (withWait url).queryPairs = [("x", "1"), ("x", "1"), ("y", "& "), ("wait", "true")] ∧
    withWait url = withWait { url with query := some "x=1&x=1&y=%26+".toList } ∧
    withWait (withWait url) = withWait url := by
  intro url
  have read : ofText "https://u:p@[::1]:8443/hook?x=1&w%61it=0&x=1&y=%26+#f" = .ok url := by
    decide +kernel
  have spelled : Url.Spells "w%61it".toList (Text.encode "wait") := by
    have bytes : Text.encode "wait" = [0x77, UInt8.ofNat (6 * 16 + 1), 0x69, 0x74] := by decide
    rw [bytes]
    exact .plain (b := 0x77) (by decide) (by decide) (.percent (by decide) (by decide)
      (.plain (b := 0x69) (by decide) (by decide) (.plain (b := 0x74) (by decide) (by decide)
        .nil)))
  have named : Url.Names "wait" "w%61it=0".toList := .valued spelled ['0']
  obtain ⟨-, pairs, -, ignored, -, again⟩ := withWait_asks_once url
  have found : url.queryPairs = [("x", "1"), ("wait", "0"), ("x", "1"), ("y", "& ")] := by
    cbv
  refine ⟨read, named, pairs.trans (by rw [found]; decide), ?_, again⟩
  exact ignored ["x=1".toList] "w%61it=0".toList ["x=1".toList, "y=%26+".toList] named (by decide)

end Webhook

end PushNotice
