/-!
# PushNotice.Proofs.Result

**Values and errors.** What there has been before, where a value or an error comes out of a map or
out of one part after the other. Where each member of a list is a part, the error is that of the first
member that has one.
-/

namespace PushNotice

variable {ε ε' α β : Type}

/-! ### Parts -/

theorem map_eq_ok_iff {f : α → β} {result : Except ε α} {b : β} :
    result.map f = .ok b ↔ ∃ a, result = .ok a ∧ f a = b := by
  cases result <;> simp [Except.map]

theorem map_eq_error_iff {f : α → β} {result : Except ε α} {e : ε} :
    result.map f = .error e ↔ result = .error e := by
  cases result <;> simp [Except.map]

theorem mapError_eq_ok_iff {f : ε → ε'} {result : Except ε α} {a : α} :
    result.mapError f = .ok a ↔ result = .ok a := by
  constructor
  · intro h
    cases result with
    | error e => cases h
    | ok a' => exact congrArg Except.ok (Except.ok.inj h)
  · rintro rfl
    rfl

theorem mapError_eq_error_iff {f : ε → ε'} {result : Except ε α} {e' : ε'} :
    result.mapError f = .error e' ↔ ∃ e, result = .error e ∧ f e = e' := by
  constructor
  · intro h
    cases result with
    | error e => exact ⟨e, rfl, Except.error.inj h⟩
    | ok a => cases h
  · rintro ⟨e, rfl, rfl⟩
    rfl

theorem bind_eq_ok_iff {f : α → Except ε β} {result : Except ε α} {b : β} :
    (result >>= f) = .ok b ↔ ∃ a, result = .ok a ∧ f a = .ok b := by
  cases result <;> simp [bind, Except.bind]

theorem bind_eq_error_iff {f : α → Except ε β} {result : Except ε α} {e : ε} :
    (result >>= f) = .error e ↔
      result = .error e ∨ ∃ a, result = .ok a ∧ f a = .error e := by
  cases result <;> simp [bind, Except.bind]

/-! ### Members of a list -/

/-- The first member of a list that has a property. -/
inductive IsFirst (P : α → Prop) : List α → α → Prop where
  | here {a : α} {after : List α} (has : P a) : IsFirst P (a :: after) a
  | later {a b : α} {after : List α} (lacks : ¬ P b) (rest : IsFirst P after a) :
    IsFirst P (b :: after) a

section

variable {P : α → Prop} {a b : α} {as : List α}

theorem isFirst_cons_iff : IsFirst P (b :: as) a ↔ P b ∧ b = a ∨ ¬ P b ∧ IsFirst P as a := by
  constructor
  · intro h
    cases h with
    | here has => exact .inl ⟨has, rfl⟩
    | later lacks rest => exact .inr ⟨lacks, rest⟩
  · intro h
    rcases h with ⟨has, rfl⟩ | ⟨lacks, rest⟩
    · exact .here has
    · exact .later lacks rest

theorem exists_isFirst (mem : a ∈ as) (has : P a) : ∃ first, IsFirst P as first := by
  induction as with
  | nil => cases mem
  | cons b as ih =>
    by_cases here : P b
    · exact ⟨b, .here here⟩
    · rcases List.mem_cons.1 mem with rfl | mem
      · exact absurd has here
      · obtain ⟨first, rest⟩ := ih mem
        exact ⟨first, .later here rest⟩

theorem IsFirst.has (h : IsFirst P as a) : P a := by
  induction h with
  | here has => exact has
  | later _ _ ih => exact ih

/-- Where nothing else fails, the first member that fails has the error of the list. -/
theorem mapM_eq_error_of_isFirst {f : α → Except ε β} {e : ε} (h : IsFirst P as a)
    (passes : ∀ b, ¬ P b → ∃ c, f b = .ok c) (fails : f a = .error e) :
    as.mapM f = .error e := by
  induction h with
  | here => rw [List.mapM_cons, fails]; rfl
  | later lacks _ ih =>
    obtain ⟨c, passed⟩ := passes _ lacks
    rw [List.mapM_cons, passed, ih fails]
    rfl

end

end PushNotice
