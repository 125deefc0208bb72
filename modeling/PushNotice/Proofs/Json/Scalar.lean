import Mathlib.Algebra.Group.Int.Defs
import Mathlib.Data.List.TakeDrop
import PushNotice.Json.Reader
import PushNotice.Json.Writer
import PushNotice.Proofs.Decimal.Word

/-!
# PushNotice.Proofs.Json.Scalar

**Strings and numbers are read back.** The text of a string is read as the string, whatever
characters it has, and reading stops behind its closing quote (`string?_quote`). The text of an
integer of 64 bits is read as the integer, where no more of a number follows
(`scalar?_integerText`). Of the text of any number it is known that it has none but the characters
of numerals, and that what is left of it when a number is read is again such characters
(`spends_of_scalar?`).
-/

namespace PushNotice.Json

/-! ### Strings -/

theorem hexValue?_lowerHexDigit :
    ∀ n < 16, Text.hexValue? (Text.lowerHexDigit n) = some n := by
  decide

/-- The two last digits of four give a unit below 256. -/
theorem unit?_low {n : Nat} (h : n < 256) :
    unit? '0' '0' (Text.lowerHexDigit (n / 16)) (Text.lowerHexDigit (n % 16)) = some n := by
  have zero : Text.hexValue? '0' = some 0 := by decide
  have high := hexValue?_lowerHexDigit (n / 16) (by omega)
  have low := hexValue?_lowerHexDigit (n % 16) (by omega)
  simp only [unit?, zero, high, low, Option.bind_eq_bind, Option.bind_some, Option.pure_def,
    Option.some.injEq]
  omega

/-- A character is written as a backslash and a letter, or as a control with its number, or as
itself. -/
theorem escape_cases (c : Char) :
    (∃ e, escape c = ['\\', e] ∧ e ≠ 'u' ∧ escaped? e = some c) ∨
      (escape c = ['\\', 'u', '0', '0', Text.lowerHexDigit (c.toNat / 16),
          Text.lowerHexDigit (c.toNat % 16)] ∧ c.toNat < 0x20) ∨
      (escape c = [c] ∧ c ≠ '"' ∧ c ≠ '\\' ∧ ¬ c.toNat < 0x20) := by
  by_cases named : c ∈ ['"', '\\', '\n', '\r', '\t', '\x08', '\x0c']
  · simp only [List.mem_cons, List.not_mem_nil, or_false] at named
    refine .inl ?_
    rcases named with rfl | rfl | rfl | rfl | rfl | rfl | rfl
    · exact ⟨'"', rfl, by decide, rfl⟩
    · exact ⟨'\\', rfl, by decide, rfl⟩
    · exact ⟨'n', rfl, by decide, rfl⟩
    · exact ⟨'r', rfl, by decide, rfl⟩
    · exact ⟨'t', rfl, by decide, rfl⟩
    · exact ⟨'b', rfl, by decide, rfl⟩
    · exact ⟨'f', rfl, by decide, rfl⟩
  · simp only [List.mem_cons, List.not_mem_nil, or_false, not_or] at named
    obtain ⟨quote, backslash, newline, carriage, tab, back, feed⟩ := named
    simp only [escape, quote, backslash, newline, carriage, tab, back, feed, if_false]
    by_cases control : c.toNat < 0x20 <;> simp [control, quote, backslash]

theorem stringRest?_letter {c e : Char} (notNumber : e ≠ 'u') (h : escaped? e = some c)
    (rest : List Char) :
    stringRest? ('\\' :: e :: rest) =
      (stringRest? rest).map fun (cs, after) => (c :: cs, after) := by
  rw [stringRest?]
  · simp only [h]
  · simp [notNumber]

theorem stringRest?_number {c : Char} (h : c.toNat < 0x20) (rest : List Char) :
    stringRest? ('\\' :: 'u' :: '0' :: '0' :: Text.lowerHexDigit (c.toNat / 16) ::
        Text.lowerHexDigit (c.toNat % 16) :: rest) =
      (stringRest? rest).map fun (cs, after) => (c :: cs, after) := by
  have unit := unit?_low (n := c.toNat) (by omega)
  have notLow : isLowUnit c.toNat = false := by
    simp only [isLowUnit, Bool.and_eq_false_iff, decide_eq_false_iff_not]
    omega
  have notHigh : isHighUnit c.toNat = false := by
    simp only [isHighUnit, Bool.and_eq_false_iff, decide_eq_false_iff_not]
    omega
  simp only [stringRest?, unit, notLow, notHigh, Char.ofNat_toNat, Bool.false_eq_true, if_false]

theorem stringRest?_plain {c : Char} (notQuote : c ≠ '"') (notBackslash : c ≠ '\\')
    (notControl : ¬ c.toNat < 0x20) (rest : List Char) :
    stringRest? (c :: rest) = (stringRest? rest).map fun (cs, after) => (c :: cs, after) := by
  rw [stringRest?]
  · simp only [notControl, notBackslash, or_self, if_false]
  · exact notQuote
  · simp [notBackslash]
  · simp [notBackslash]

/-- The text of a character is read as the character. -/
theorem stringRest?_escape (c : Char) (rest : List Char) :
    stringRest? (escape c ++ rest) =
      (stringRest? rest).map fun (cs, after) => (c :: cs, after) := by
  rcases escape_cases c with ⟨e, written, notNumber, letter⟩ | ⟨written, control⟩ |
    ⟨written, notQuote, notBackslash, notControl⟩
  · rw [written]
    exact stringRest?_letter notNumber letter rest
  · rw [written]
    exact stringRest?_number control rest
  · rw [written]
    exact stringRest?_plain notQuote notBackslash notControl rest

theorem stringRest?_flatMap_escape (cs rest : List Char) :
    stringRest? (cs.flatMap escape ++ '"' :: rest) = some (cs, rest) := by
  induction cs with
  | nil => rw [List.flatMap_nil, List.nil_append, stringRest?]
  | cons c cs ih =>
    rw [List.flatMap_cons, List.append_assoc, stringRest?_escape, ih]
    rfl

/-- **A string is read back from its text**, and nothing behind it is touched. -/
theorem string?_quote (s : String) (rest : List Char) :
    string? (quote s ++ rest) = some (s, rest) := by
  have whole : quote s ++ rest = '"' :: (s.toList.flatMap escape ++ '"' :: rest) := by
    simp [quote]
  rw [whole, string?, stringRest?_flatMap_escape]
  simp

theorem scalar?_quote (s : String) (rest : List Char) :
    scalar? (quote s ++ rest) = some (.string s, rest) := by
  have quoted : scalar? (quote s ++ rest) =
      (string? (quote s ++ rest)).map fun read => (.string read.1, read.2) := rfl
  rw [quoted, string?_quote]
  rfl

/-! ### Integers -/

open Decimal (head?_toDigits isDigit valueFrom? wordLimit)

theorem isDigit_iff {c : Char} : isDigit c = true ↔ '0' ≤ c ∧ c ≤ '9' := by
  rw [isDigit, Decimal.digit?]
  split <;> simp [*]

theorem isDigit_of_mem_toDigits {n : Nat} {c : Char} (h : c ∈ Nat.toDigits 10 n) :
    isDigit c = true := by
  have digit := Nat.isDigit_of_mem_toDigits (by decide) (by decide) h
  exact isDigit_iff.2 (by simpa [Char.isDigit, Char.le_def] using digit)

/-- Nothing of a number follows: the text is at its end, or goes on with a mark of a container. -/
def EndsValue (rest : List Char) : Prop :=
  ∀ c ∈ rest.head?, c ∈ [',', ']', '\x7d']

theorem EndsValue.stop {rest : List Char} (h : EndsValue rest) :
    ∀ c ∈ rest.head?, isDigit c = false := by
  intro c first
  have marks : [',', ']', '\x7d'].all (!isDigit ·) = true := by decide
  simpa using List.all_eq_true.1 marks c (h c first)

/-- Digits are read as far as they go. -/
theorem digits?_append {digits rest : List Char} (nonempty : digits ≠ [])
    (decimal : ∀ c ∈ digits, isDigit c = true) (stop : ∀ c ∈ rest.head?, isDigit c = false) :
    digits? (digits ++ rest) = some (digits, rest) := by
  have taken : rest.takeWhile isDigit = [] ∧ rest.dropWhile isDigit = rest := by
    cases rest with
    | nil => exact ⟨rfl, rfl⟩
    | cons c rest => simp [stop c rfl]
  have span : (digits ++ rest).span isDigit = (digits, rest) := by
    rw [List.span_eq_takeWhile_dropWhile, List.takeWhile_append_of_pos decimal,
      List.dropWhile_append_of_pos decimal, taken.1, taken.2, List.append_nil]
  unfold digits?
  rw [span]
  cases digits with
  | nil => exact absurd rfl nonempty
  | cons c cs => rfl

/-- The digits of a number are the whole part of a numeral. -/
theorem whole?_toDigits (n : Nat) {rest : List Char} (stop : ∀ c ∈ rest.head?, isDigit c = false) :
    whole? (Nat.toDigits 10 n ++ rest) = some (Nat.toDigits 10 n, rest) := by
  rcases Nat.eq_zero_or_pos n with rfl | positive
  · cases rest with
    | nil => rfl
    | cons c rest => simp [whole?, stop c rfl]
  · have first := head?_toDigits positive
    have read := digits?_append Nat.toDigits_ne_nil (fun c => isDigit_of_mem_toDigits (n := n)) stop
    rw [whole?]
    · exact read
    · intro more zero
      cases digits : Nat.toDigits 10 n with
      | nil => exact Nat.toDigits_ne_nil digits
      | cons c cs => simp_all

/-- A numeral that is a sign and digits is read as such, where nothing of a number follows. -/
theorem numeral?_integer (negative : Bool) (n : Nat) {rest : List Char} (h : EndsValue rest) :
    numeral? ((if negative then ['-'] else []) ++ Nat.toDigits 10 n ++ rest) =
      some (⟨negative, Nat.toDigits 10 n, [], none⟩, rest) := by
  have whole := whole?_toDigits n h.stop
  have fraction : fraction? rest = some ([], rest) := by
    rw [fraction?]
    rintro more rfl
    exact absurd (h '.' rfl) (by decide)
  have exponent : exponent? rest = some (none, rest) := by
    cases rest with
    | nil => rfl
    | cons c rest =>
      have other : ¬ (c = 'e' ∨ c = 'E') := by
        rintro (rfl | rfl) <;> exact absurd (h _ rfl) (by decide)
      simp [exponent?, other]
  unfold numeral?
  cases negative with
  | true => simp [whole, fraction, exponent]
  | false =>
    have notSigned : ∀ more, Nat.toDigits 10 n ++ rest ≠ '-' :: more := by
      intro more signed
      cases digits : Nat.toDigits 10 n with
      | nil => exact Nat.toDigits_ne_nil digits
      | cons c cs =>
        obtain rfl : c = '-' := by simpa [digits] using congrArg List.head? signed
        exact absurd (isDigit_of_mem_toDigits (digits ▸ List.mem_cons_self)) (by decide)
    -- By `notSigned` there is no sign to take off.
    simp [whole, fraction, exponent]

/-- The digits of an integer have its value, and the sign is that of the integer. -/
theorem value?_integer {i : Int} (low : -2 ^ 63 ≤ i) (high : i < 2 ^ 64) :
    Numeral.value? ⟨decide (i < 0), Nat.toDigits 10 i.natAbs, [], none⟩ = some (.integer i) := by
  have value : valueFrom? 0 (Nat.toDigits 10 i.natAbs) = some i.natAbs :=
    Decimal.valueFrom?_eq_some_iff.2
      ⟨fun c mem => isDigit_iff.1 (isDigit_of_mem_toDigits mem), Nat.ofDigitChars_ten_toDigits.symm⟩
  have greatest : Nat.pow 2 63 = 2 ^ 63 := rfl
  have limit : wordLimit = 2 ^ 64 := rfl
  unfold Numeral.value?
  simp only [value, decide_eq_true_eq]
  by_cases negative : i < 0
  · rw [if_pos negative, if_pos (by omega)]
    congr 2
    omega
  · rw [if_neg negative, if_pos (by omega)]
    congr 2
    omega

theorem integerText_eq (i : Int) :
    integerText i = (if decide (i < 0) then ['-'] else []) ++ Nat.toDigits 10 i.natAbs := by
  cases i with
  | ofNat n => simp [integerText]
  | negSucc n => simp [integerText, Int.negSucc_lt_zero]

theorem integerText_start (i : Int) :
    ∃ c cs, integerText i = c :: cs ∧ (c = '-' ∨ isDigit c = true) := by
  cases i with
  | ofNat n =>
    cases digits : Nat.toDigits 10 n with
    | nil => exact absurd digits Nat.toDigits_ne_nil
    | cons c cs =>
      have first := isDigit_of_mem_toDigits (digits ▸ List.mem_cons_self)
      exact ⟨c, cs, digits, .inr first⟩
  | negSucc n => exact ⟨'-', _, rfl, .inl rfl⟩

/-- **An integer is read back from its text**, where nothing of a number follows. -/
theorem scalar?_integerText {i : Int} (low : -2 ^ 63 ≤ i) (high : i < 2 ^ 64) {rest : List Char}
    (h : EndsValue rest) :
    scalar? (integerText i ++ rest) = some (.number (.integer i), rest) := by
  have read : number? (integerText i ++ rest) = some (.number (.integer i), rest) := by
    unfold number?
    rw [integerText_eq, numeral?_integer _ _ h]
    simp only [value?_integer low high, Option.map_some]
  obtain ⟨c, cs, whole, number⟩ := integerText_start i
  have notQuote : c ≠ '"' := by
    rintro rfl
    exact absurd number (by decide)
  rw [whole, List.cons_append] at read ⊢
  rw [scalar?]
  · rw [if_pos number, read]
  · simp [notQuote]

/-! ### Characters of numerals

Not all texts of floating-point numbers are looked into. That they are made of certain characters is
enough to know that reading a number does not go beyond them. -/

/-- The characters that numerals are made of. -/
def isNumeralChar (c : Char) : Bool :=
  isDigit c || ['-', '+', '.', 'e', 'E'].contains c

theorem isSpace_of_numeralChar {c : Char} (h : isNumeralChar c = true) : isSpace c = false := by
  have spaces : [' ', '\t', '\n', '\r'].all (!isNumeralChar ·) = true := by decide
  refine Bool.eq_false_iff.2 fun space => ?_
  have mem : c ∈ [' ', '\t', '\n', '\r'] := by simpa [isSpace, or_assoc] using space
  simpa [h] using List.all_eq_true.1 spaces c mem

theorem not_mark_of_numeralChar {c : Char} (h : isNumeralChar c = true) :
    c ∉ [',', ']', '\x7d'] := by
  have marks : [',', ']', '\x7d'].all (!isNumeralChar ·) = true := by decide
  intro mem
  simpa [h] using List.all_eq_true.1 marks c mem

/-- What is left is the end of the text behind characters of numerals. -/
def Spends (cs rest : List Char) : Prop :=
  ∃ spent, cs = spent ++ rest ∧ ∀ c ∈ spent, isNumeralChar c = true

theorem Spends.refl (cs : List Char) : Spends cs cs :=
  ⟨[], rfl, by simp⟩

theorem Spends.trans {cs middle rest : List Char} (h : Spends cs middle) (h' : Spends middle rest) :
    Spends cs rest := by
  obtain ⟨spent, rfl, numeral⟩ := h
  obtain ⟨spent', rfl, numeral'⟩ := h'
  exact ⟨spent ++ spent', by simp, List.forall_mem_append.2 ⟨numeral, numeral'⟩⟩

theorem spends_cons {c : Char} (h : isNumeralChar c = true) (rest : List Char) :
    Spends (c :: rest) rest :=
  ⟨[c], rfl, by simpa using h⟩

theorem spends_digits? {cs digits rest : List Char} (h : digits? cs = some (digits, rest)) :
    Spends cs rest := by
  unfold digits? at h
  rw [List.span_eq_takeWhile_dropWhile] at h
  split at h
  · simp at h
  · next taken dropped _ same =>
    obtain ⟨rfl, rfl⟩ := Prod.mk.inj same
    obtain ⟨rfl, rfl⟩ := Prod.mk.inj (Option.some.inj h)
    refine ⟨cs.takeWhile isDigit, List.takeWhile_append_dropWhile.symm, fun c mem => ?_⟩
    have digit := List.all_eq_true.1 List.all_takeWhile c mem
    simp [isNumeralChar, digit]

theorem spends_whole? {cs digits rest : List Char} (h : whole? cs = some (digits, rest)) :
    Spends cs rest := by
  unfold whole? at h
  split at h
  · next after =>
    cases after with
    | nil =>
      obtain ⟨rfl, rfl⟩ := Prod.mk.inj (Option.some.inj h)
      exact spends_cons (by decide) []
    | cons c after =>
      dsimp only at h
      split at h
      · simp at h
      · obtain ⟨rfl, rfl⟩ := Prod.mk.inj (Option.some.inj h)
        exact spends_cons (by decide) _
  · exact spends_digits? h

theorem spends_fraction? {cs digits rest : List Char} (h : fraction? cs = some (digits, rest)) :
    Spends cs rest := by
  unfold fraction? at h
  split at h
  · exact (spends_cons (by decide) _).trans (spends_digits? h)
  · obtain ⟨rfl, rfl⟩ := Prod.mk.inj (Option.some.inj h)
    exact .refl cs

theorem spends_exponent? {cs rest : List Char} {exponent : Option (Bool × List Char)}
    (h : exponent? cs = some (exponent, rest)) : Spends cs rest := by
  unfold exponent? at h
  split at h
  · next c after =>
    split at h
    · next mark =>
      have first : Spends (c :: after) after :=
        spends_cons (by rcases mark with rfl | rfl <;> decide) after
      obtain ⟨⟨digits, rest'⟩, read, same⟩ := Option.map_eq_some_iff.1 h
      obtain ⟨-, rfl⟩ := Prod.mk.inj same
      refine first.trans ?_
      split at read
      · exact (spends_cons (by decide) _).trans (spends_digits? read)
      · exact (spends_cons (by decide) _).trans (spends_digits? read)
      · exact spends_digits? read
    · obtain ⟨-, rfl⟩ := Prod.mk.inj (Option.some.inj h)
      exact .refl _
  · obtain ⟨-, rfl⟩ := Prod.mk.inj (Option.some.inj h)
    exact .refl _

theorem spends_numeral? {cs rest : List Char} {n : Numeral} (h : numeral? cs = some (n, rest)) :
    Spends cs rest := by
  unfold numeral? at h
  obtain ⟨⟨whole, afterWhole⟩, readWhole, h⟩ := Option.bind_eq_some_iff.1 h
  obtain ⟨⟨fraction, afterFraction⟩, readFraction, h⟩ := Option.bind_eq_some_iff.1 h
  obtain ⟨⟨exponent, afterExponent⟩, readExponent, h⟩ := Option.bind_eq_some_iff.1 h
  obtain ⟨-, rfl⟩ := Prod.mk.inj (Option.some.inj h)
  have behindSign := (spends_whole? readWhole).trans
    ((spends_fraction? readFraction).trans (spends_exponent? readExponent))
  split at behindSign
  · exact (spends_cons (by decide) _).trans behindSign
  · exact behindSign

/-- A text of characters of numerals, at least one. -/
def IsNumeralText (cs : List Char) : Prop :=
  cs ≠ [] ∧ ∀ c ∈ cs, isNumeralChar c = true

theorem isNumeralChar_of_mem_toDigits {n : Nat} {c : Char} (h : c ∈ Nat.toDigits 10 n) :
    isNumeralChar c = true := by
  simp [isNumeralChar, isDigit_of_mem_toDigits h]

theorem isNumeralText_integerText (i : Int) : IsNumeralText (integerText i) := by
  cases i with
  | ofNat n => exact ⟨Nat.toDigits_ne_nil, fun c => isNumeralChar_of_mem_toDigits⟩
  | negSucc n =>
    refine ⟨List.cons_ne_nil _ _, List.forall_mem_cons.2 ⟨by decide, fun c => ?_⟩⟩
    exact isNumeralChar_of_mem_toDigits

section Float

variable {digits : List Char} (h : ∀ c ∈ digits, isNumeralChar c = true)

include h

theorem isNumeralText_positional (exponent : Int) : IsNumeralText (positional digits exponent) := by
  have zero : isNumeralChar '0' = true := by decide
  have point : isNumeralChar '.' = true := by decide
  have ofZeros : ∀ n, ∀ c ∈ zeros n, isNumeralChar c = true :=
    fun n c mem => List.eq_of_mem_replicate mem ▸ zero
  have taken : ∀ n, ∀ c ∈ digits.take n, isNumeralChar c = true :=
    fun n c mem => h c (List.mem_of_mem_take mem)
  have dropped : ∀ n, ∀ c ∈ digits.drop n, isNumeralChar c = true :=
    fun n c mem => h c (List.mem_of_mem_drop mem)
  unfold positional IsNumeralText
  dsimp only
  split
  · simpa [List.forall_mem_append, zero, point, or_imp, forall_and] using ⟨h, ofZeros _⟩
  · split
    · simpa [List.forall_mem_append, point, or_imp, forall_and] using ⟨taken _, dropped _⟩
    · simpa [zero, point, or_imp, forall_and] using ⟨ofZeros _, h⟩

theorem isNumeralText_scientific (leading : Int) : IsNumeralText (scientific digits leading) := by
  have mark : isNumeralChar 'e' = true := by decide
  have point : isNumeralChar '.' = true := by decide
  have exponent : ∀ c ∈ Nat.toDigits 10 leading.natAbs, isNumeralChar c = true :=
    fun c => isNumeralChar_of_mem_toDigits
  have sign : isNumeralChar (if leading < 0 then '-' else '+') = true := by split <;> decide
  unfold scientific IsNumeralText
  dsimp only
  refine ⟨by simp, List.forall_mem_append.2 ⟨?_, by simpa [mark, sign] using exponent⟩⟩
  split
  · simp
  · exact h
  · simpa [point] using h

end Float

theorem isNumeralText_floatText (x : Binary64) : IsNumeralText (floatText x) := by
  have signed : ∀ cs, IsNumeralText cs →
      IsNumeralText ((if x.negative then ['-'] else []) ++ cs) := by
    intro cs h
    have sign : isNumeralChar '-' = true := by decide
    refine ⟨by simp [h.1], List.forall_mem_append.2 ⟨?_, h.2⟩⟩
    split <;> simp [sign]
  have digits : ∀ c ∈ Nat.toDigits 10 x.shortest.digits, isNumeralChar c = true :=
    fun c => isNumeralChar_of_mem_toDigits
  unfold floatText
  dsimp only
  split
  · exact signed _ ⟨by simp, List.all_eq_true.1 (by decide)⟩
  · split
    · exact signed _ (isNumeralText_positional digits _)
    · exact signed _ (isNumeralText_scientific digits _)

theorem isNumeralText_text (n : Number) : IsNumeralText n.text := by
  cases n with
  | integer i => exact isNumeralText_integerText i
  | float x => exact isNumeralText_floatText x

theorem word?_of_numeralChar {c : Char} (h : isNumeralChar c = true) (cs : List Char) :
    word? (c :: cs) = none := by
  unfold word?
  split <;> simp_all [isNumeralChar, isDigit, Decimal.digit?]

theorem spends_of_numeralChar {c : Char} {cs left : List Char} {j : Json}
    (h : isNumeralChar c = true) (read : scalar? (c :: cs) = some (j, left)) :
    Spends (c :: cs) left := by
  unfold scalar? at read
  split at read
  · next quoted =>
    obtain rfl : c = '"' := (List.cons.inj quoted).1
    exact absurd h (by decide)
  · split at read
    · obtain ⟨⟨numeral, rest⟩, found, value⟩ : ∃ p, numeral? (c :: cs) = some p ∧
          p.1.value?.map (fun v => (Json.number v, p.2)) = some (j, left) := by
        unfold number? at read
        split at read
        · simp at read
        · next found => exact ⟨_, found, read⟩
      obtain ⟨v, -, same⟩ := Option.map_eq_some_iff.1 value
      obtain ⟨-, rfl⟩ := Prod.mk.inj same
      exact spends_numeral? found
    · rw [word?_of_numeralChar h] at read
      simp at read
  · simp at read

/-- Reading a number does not go beyond its text. What it leaves of it, if anything, are characters
of numerals. -/
theorem spends_of_scalar? {text rest left : List Char} {j : Json} (h : IsNumeralText text)
    (ends : EndsValue rest) (read : scalar? (text ++ rest) = some (j, left)) : Spends left rest := by
  obtain ⟨nonempty, numeral⟩ := h
  have spent : Spends (text ++ rest) left := by
    cases text with
    | nil => exact absurd rfl nonempty
    | cons c text => exact spends_of_numeralChar (numeral c List.mem_cons_self) read
  obtain ⟨spent, whole, numeral'⟩ := spent
  rcases List.append_eq_append_iff.1 whole with ⟨more, rfl, tail⟩ | ⟨more, rfl, rfl⟩
  · cases more with
    | nil => exact tail ▸ .refl left
    | cons c more =>
      -- A mark that ends values would have been spent.
      have mark : c ∈ [',', ']', '\x7d'] := ends c (by simp [tail])
      exact absurd mark (not_mark_of_numeralChar (numeral' c (by simp)))
  · exact ⟨more, rfl, fun c mem => numeral c (List.mem_append_right _ mem)⟩

end PushNotice.Json
