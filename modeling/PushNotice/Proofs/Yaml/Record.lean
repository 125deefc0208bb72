import PushNotice.Proofs.Result
import PushNotice.Yaml.Content

/-!
# PushNotice.Proofs.Yaml.Record

**What a reading gives.** `Gives P reading` says that whatever the reading gives has the property
`P`, however many references it may follow; it may also give nothing. If every reader of a field
keeps a property of the record, then the record that a text gives has it (`readRecord_eq_ok`).
-/

namespace PushNotice.Yaml

/-! ### Readings -/

/-- Whatever the reading gives has a property. -/
def Gives {α : Type} (P : α → Prop) (reading : Reading α) : Prop :=
  ∀ left a left', reading.run left = .ok (a, left') → P a

section

variable {α β : Type} {P : α → Prop} {Q : β → Prop}

theorem Gives.of_true (reading : Reading α) : Gives (fun _ => True) reading :=
  fun _ _ _ _ => trivial

theorem Gives.pure {a : α} (h : P a) : Gives P (pure a) := by
  intro left a' left' run
  rw [StateT.run_pure] at run
  cases run
  exact h

theorem gives_malformed : Gives P malformed := by
  intro left a left' run
  cases run

theorem gives_lift (result : Except Flaw α) : Gives (result = .ok ·) (liftM result) := by
  intro left a left' run
  cases result with
  | error flaw => cases run
  | ok b => cases run; rfl

theorem Gives.bind {reading : Reading α} {next : α → Reading β} (first : Gives P reading)
    (second : ∀ a, P a → Gives Q (next a)) : Gives Q (reading >>= next) := by
  intro left b left' run
  rw [StateT.run_bind, bind_eq_ok_iff] at run
  obtain ⟨⟨a, between⟩, ofFirst, ofSecond⟩ := run
  exact second a (first left a between ofFirst) between b left' ofSecond

end

/-! ### Records -/

section

variable {α : Type} {P : α → Prop} {readers : FieldReaders α}

/-- Every reader of a field keeps a property of the record. -/
def KeptBy (P : α → Prop) (readers : FieldReaders α) : Prop :=
  ∀ anchors name reader, readers anchors name = some reader →
    ∀ node record, P record → Gives P (reader node record)

theorem gives_readFields (kept : KeptBy P readers) (anchors : Anchors)
    (entries : List (Node × Node)) {seen : List String} {record : α} (h : P record) :
    Gives P (readFields anchors readers seen record entries) := by
  -- By induction over the entries; each one keeps the property or leaves the record as it is.
  induction entries generalizing seen record with
  | nil => exact .pure h
  | cons entry rest ih =>
    obtain ⟨key, node⟩ := entry
    rw [readFields]
    refine (Gives.of_true _).bind fun name _ => ?_
    split
    · split
      · exact ih h
      · exact gives_malformed
    · next reader found =>
      split
      · exact gives_malformed
      · exact (kept anchors name reader found node record h).bind fun _ => ih

/-- A record read from a text has what its readers keep. -/
theorem readRecord_eq_ok {β : Type} {finish : α → Except Flaw β} {initial : α} {text : String}
    {result : β} (kept : KeptBy P readers) (h : P initial)
    (read : readRecord readers initial finish text = .ok result) :
    ∃ record, P record ∧ finish record = .ok result := by
  rw [readRecord] at read
  split at read
  · cases read
  · next entries _ =>
    obtain ⟨⟨record, left⟩, fields, rest⟩ := bind_eq_ok_iff.1 read
    obtain ⟨finished, finish_eq, complete⟩ := bind_eq_ok_iff.1 rest
    refine ⟨record, gives_readFields kept _ entries h _ _ _ fields, ?_⟩
    split at complete
    · exact finish_eq.trans complete
    · cases complete

end

end PushNotice.Yaml
