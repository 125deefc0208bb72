import PushNotice.Delivery.Request
import PushNotice.Fault
import PushNotice.Log

/-!
# PushNotice.Outcome

**What a part of a run does.** It reports events and makes requests, in an order, and in the end
gives a value or fails. After a fault nothing more happens: `events_bind`, `requests_bind` and
`result_bind` say what the parts of a run leave when one follows the other.
-/

namespace PushNotice

/-- What a part of a run does. -/
structure Outcome (α : Type) where
  /-- What it reports. -/
  events : List Log.Event
  /-- The requests that it makes, answered or not. -/
  requests : List Delivery.Request
  /-- What it gives. -/
  result : Except Fault α

namespace Outcome

/-- Gives a value and does nothing else. -/
def pure (value : α) : Outcome α :=
  ⟨[], [], .ok value⟩

/-- Goes on with the value of a part, if there is one. -/
def bind (first : Outcome α) (next : α → Outcome β) : Outcome β :=
  match first.result with
  | .error fault => ⟨first.events, first.requests, .error fault⟩
  | .ok value =>
    ⟨first.events ++ (next value).events, first.requests ++ (next value).requests,
      (next value).result⟩

instance : Monad Outcome where
  pure := pure
  bind := bind

/-- Reports events. -/
def report (events : List Log.Event) : Outcome Unit :=
  ⟨events, [], .ok ()⟩

/-- Gives a value or fails. -/
def ofExcept (result : Except Fault α) : Outcome α :=
  ⟨[], [], result⟩

/-! ### One part after the other -/

@[simp] theorem pure_eq (value : α) : (Pure.pure value : Outcome α) = ⟨[], [], .ok value⟩ := rfl

theorem bind_of_error {first : Outcome α} {fault : Fault} (h : first.result = .error fault)
    (next : α → Outcome β) :
    (first >>= next) = ⟨first.events, first.requests, .error fault⟩ := by
  change first.bind next = _
  simp [bind, h]

theorem bind_of_ok {first : Outcome α} {value : α} (h : first.result = .ok value)
    (next : α → Outcome β) :
    (first >>= next) =
      ⟨first.events ++ (next value).events, first.requests ++ (next value).requests,
        (next value).result⟩ := by
  change first.bind next = _
  simp [bind, h]

@[simp] theorem result_bind (first : Outcome α) (next : α → Outcome β) :
    (first >>= next).result =
      match first.result with
      | .error fault => .error fault
      | .ok value => (next value).result := by
  cases h : first.result with
  | error fault => simp [bind_of_error h]
  | ok value => simp [bind_of_ok h]

@[simp] theorem requests_bind (first : Outcome α) (next : α → Outcome β) :
    (first >>= next).requests =
      first.requests ++
        match first.result with
        | .error _ => []
        | .ok value => (next value).requests := by
  cases h : first.result with
  | error fault => simp [bind_of_error h]
  | ok value => simp [bind_of_ok h]

@[simp] theorem events_bind (first : Outcome α) (next : α → Outcome β) :
    (first >>= next).events =
      first.events ++
        match first.result with
        | .error _ => []
        | .ok value => (next value).events := by
  cases h : first.result with
  | error fault => simp [bind_of_error h]
  | ok value => simp [bind_of_ok h]

instance : LawfulMonad Outcome := LawfulMonad.mk' Outcome
  (by
    rintro α ⟨events, requests, result⟩
    cases result <;> simp [Functor.map, bind, pure])
  (by intros; simp [Bind.bind, bind])
  (by
    rintro α β γ ⟨events, requests, result⟩ next last
    cases result with
    | error fault => rfl
    | ok value =>
      cases h : (next value).result <;> simp [Bind.bind, bind, h, List.append_assoc])

end Outcome

end PushNotice
