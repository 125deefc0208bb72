/-!
# PushNotice.Text.Blank

**Blank characters and trimming.** A character is blank when it has the Unicode property
`White_Space`; trimming drops the blank characters at both ends of a text. Trimming twice is
trimming once, and a trimmed text neither starts nor ends with a blank.
-/

namespace PushNotice.Text

/-- The characters with the property `White_Space`. -/
def isBlank (c : Char) : Bool :=
  let n := c.toNat
  (0x9 ≤ n && n ≤ 0xD) || n == 0x20 || n == 0x85 || n == 0xA0 || n == 0x1680 ||
    (0x2000 ≤ n && n ≤ 0x200A) || n == 0x2028 || n == 0x2029 || n == 0x202F || n == 0x205F ||
    n == 0x3000

theorem isBlank_of_digit {c : Char} (h : '0' ≤ c ∧ c ≤ '9') : isBlank c = false := by
  have low : 48 ≤ c.toNat := UInt32.le_iff_toNat_le.1 (Char.le_def.1 h.1)
  have high : c.toNat ≤ 57 := UInt32.le_iff_toNat_le.1 (Char.le_def.1 h.2)
  simp only [isBlank, Bool.or_eq_false_iff, Bool.and_eq_false_iff, decide_eq_false_iff_not,
    beq_eq_false_iff_ne]
  omega

/-- The text without the blanks it ends with. -/
def trimRight : List Char → List Char
  | [] => []
  | c :: cs =>
    match trimRight cs with
    | [] => if isBlank c then [] else [c]
    | kept => c :: kept

/-- The text without the blanks at its two ends. -/
def trim (cs : List Char) : List Char :=
  trimRight (cs.dropWhile isBlank)

/-- Nothing but blanks, or nothing at all. -/
def allBlank (cs : List Char) : Bool :=
  cs.all isBlank

/-! ### Trimming keeps what is not blank -/

@[simp] theorem trimRight_nil : trimRight [] = [] := rfl

theorem trimRight_cons (c : Char) (cs : List Char) :
    trimRight (c :: cs) =
      if trimRight cs = [] then (if isBlank c then [] else [c]) else c :: trimRight cs := by
  rw [trimRight]
  cases h : trimRight cs <;> simp

theorem trimRight_eq_nil_iff {cs : List Char} : trimRight cs = [] ↔ allBlank cs = true := by
  induction cs with
  | nil => simp [allBlank]
  | cons c cs ih =>
    simp only [allBlank, List.all_cons, Bool.and_eq_true] at ih ⊢
    rw [trimRight_cons, ← ih]
    by_cases h : trimRight cs = [] <;> simp [h]

@[simp] theorem trimRight_trimRight (cs : List Char) :
    trimRight (trimRight cs) = trimRight cs := by
  induction cs with
  | nil => rfl
  | cons c cs ih =>
    rw [trimRight_cons]
    by_cases h : trimRight cs = []
    · by_cases hc : isBlank c = true <;> simp [h, hc, trimRight_cons]
    · simp [h, trimRight_cons, ih]

/-- A text whose first character is not blank keeps it when the right end is trimmed. -/
theorem trimRight_cons_of_not_blank {c : Char} (hc : isBlank c = false) (cs : List Char) :
    trimRight (c :: cs) = c :: trimRight cs := by
  rw [trimRight_cons]
  by_cases h : trimRight cs = [] <;> simp [h, hc]

theorem dropWhile_isBlank_cases (cs : List Char) :
    cs.dropWhile isBlank = [] ∨
      ∃ c rest, cs.dropWhile isBlank = c :: rest ∧ isBlank c = false := by
  induction cs with
  | nil => exact Or.inl rfl
  | cons c cs ih =>
    by_cases hc : isBlank c = true
    · simpa [List.dropWhile_cons, hc] using ih
    · exact Or.inr ⟨c, cs, by simp [hc], by simpa using hc⟩

@[simp] theorem trim_trim (cs : List Char) : trim (trim cs) = trim cs := by
  unfold trim
  rcases dropWhile_isBlank_cases cs with h | ⟨c, rest, h, hc⟩
  · simp [h]
  · rw [h, trimRight_cons_of_not_blank hc, List.dropWhile_cons]
    simp [hc, trimRight_cons_of_not_blank]

theorem trim_eq_nil_iff {cs : List Char} : trim cs = [] ↔ allBlank cs = true := by
  unfold trim
  rw [trimRight_eq_nil_iff]
  induction cs with
  | nil => rfl
  | cons c cs ih =>
    by_cases hc : isBlank c = true
    · simpa [List.dropWhile_cons, hc, allBlank] using ih
    · simp [hc]

/-! ### What trimming drops -/

theorem allBlank_iff {cs : List Char} : allBlank cs = true ↔ ∀ c ∈ cs, isBlank c = true :=
  List.all_eq_true

theorem trimRight_split (cs : List Char) :
    ∃ after, cs = trimRight cs ++ after ∧ allBlank after = true := by
  induction cs with
  | nil => exact ⟨[], rfl, rfl⟩
  | cons c cs ih =>
    obtain ⟨after, split, blank⟩ := ih
    rw [trimRight_cons]
    by_cases rest : trimRight cs = []
    · have blankTail : allBlank cs = true := trimRight_eq_nil_iff.1 rest
      by_cases hc : isBlank c = true
      · exact ⟨c :: cs, by simp [rest, hc], by simp_all [allBlank]⟩
      · exact ⟨cs, by simp [rest, hc], blankTail⟩
    · exact ⟨after, by rw [if_neg rest, List.cons_append, ← split], blank⟩

/-- What trimming drops at the two ends is blank. -/
theorem trim_split (cs : List Char) :
    ∃ before after, cs = before ++ trim cs ++ after ∧
      allBlank before = true ∧ allBlank after = true := by
  obtain ⟨after, split, blank⟩ := trimRight_split (cs.dropWhile isBlank)
  refine ⟨cs.takeWhile isBlank, after, ?_, ?_, blank⟩
  · rw [trim, List.append_assoc, ← split, List.takeWhile_append_dropWhile]
  · exact List.all_takeWhile

theorem trimRight_append_of_allBlank {after : List Char} (h : allBlank after = true)
    (cs : List Char) : trimRight (cs ++ after) = trimRight cs := by
  induction cs with
  | nil => exact trimRight_eq_nil_iff.2 h
  | cons c cs ih => rw [List.cons_append, trimRight_cons, ih, ← trimRight_cons]

theorem dropWhile_isBlank_of_allBlank {cs : List Char} (h : allBlank cs = true) :
    cs.dropWhile isBlank = [] := by
  have dropped : (cs ++ []).dropWhile isBlank = [] :=
    List.dropWhile_append_of_pos (allBlank_iff.1 h)
  rwa [List.append_nil] at dropped

/-- Blanks in front of a text and behind it are lost when it is trimmed. -/
theorem trim_append {before after : List Char} (hb : allBlank before = true)
    (ha : allBlank after = true) (cs : List Char) : trim (before ++ cs ++ after) = trim cs := by
  rw [trim, List.append_assoc, List.dropWhile_append_of_pos (allBlank_iff.1 hb),
    List.dropWhile_append]
  split
  · next none_left =>
    rw [trim, List.isEmpty_iff.1 none_left, dropWhile_isBlank_of_allBlank ha]
  · exact trimRight_append_of_allBlank ha _

/-- A text without blanks stays as it is. -/
theorem trim_eq_self {cs : List Char} (h : ∀ c ∈ cs, isBlank c = false) : trim cs = cs := by
  have right : ∀ ds : List Char, (∀ c ∈ ds, isBlank c = false) → trimRight ds = ds := by
    intro ds hds
    induction ds with
    | nil => rfl
    | cons c ds ih =>
      rw [trimRight_cons_of_not_blank (hds c List.mem_cons_self),
        ih fun d mem => hds d (List.mem_cons_of_mem _ mem)]
  cases cs with
  | nil => rfl
  | cons c cs =>
    rw [trim, List.dropWhile_cons_of_neg (by simp [h c List.mem_cons_self]), right _ h]

theorem trimRight_concat {c : Char} (hc : isBlank c = false) (cs : List Char) :
    trimRight (cs ++ [c]) = cs ++ [c] := by
  induction cs with
  | nil => simp [trimRight_cons, hc]
  | cons d cs ih =>
    rw [List.cons_append, trimRight_cons, ih, if_neg (by simp)]

/-- A text that neither starts nor ends with a blank stays as it is. -/
theorem trim_eq_self_of_ends {cs : List Char} (first : ∀ c ∈ cs.head?, isBlank c = false)
    (last : ∀ c ∈ cs.getLast?, isBlank c = false) : trim cs = cs := by
  rcases List.eq_nil_or_concat cs with rfl | ⟨front, c, rfl⟩
  · rfl
  · rw [List.concat_eq_append] at first last ⊢
    have untouched : (front ++ [c]).dropWhile isBlank = front ++ [c] := by
      cases front with
      | nil => simp [last c (by simp)]
      | cons d front => simp [first d (by simp)]
    rw [trim, untouched, trimRight_concat (last c (by simp))]

/-! ### What trimming leaves -/

theorem not_blank_of_head?_trimRight {cs : List Char} (first : ∀ c ∈ cs.head?, isBlank c = false)
    {c : Char} (h : c ∈ (trimRight cs).head?) : isBlank c = false := by
  cases cs with
  | nil => simp at h
  | cons d cs =>
    have solid : isBlank d = false := first d rfl
    rw [trimRight_cons_of_not_blank solid] at h
    obtain rfl := Option.some.inj h
    exact solid

theorem not_blank_of_getLast?_trimRight {cs : List Char} {c : Char}
    (h : c ∈ (trimRight cs).getLast?) : isBlank c = false := by
  induction cs with
  | nil => simp at h
  | cons d cs ih =>
    rw [trimRight_cons] at h
    split at h
    · split at h
      · simp at h
      · next solid =>
        obtain rfl := Option.some.inj h
        simpa using solid
    · next more => exact ih (by rwa [List.getLast?_cons_of_ne_nil more] at h)

/-- A trimmed text does not start with a blank. -/
theorem not_blank_of_head?_trim {cs : List Char} {c : Char} (h : c ∈ (trim cs).head?) :
    isBlank c = false := by
  refine not_blank_of_head?_trimRight (fun d mem => ?_) h
  have dropped := List.head?_dropWhile_not isBlank cs
  rw [Option.mem_def.1 mem] at dropped
  simpa using dropped

/-- A trimmed text does not end with a blank. -/
theorem not_blank_of_getLast?_trim {cs : List Char} {c : Char} (h : c ∈ (trim cs).getLast?) :
    isBlank c = false :=
  not_blank_of_getLast?_trimRight h

/-! ### Strings -/

/-- The string without the blanks at its two ends. -/
def trimmed (s : String) : String :=
  String.ofList (trim s.toList)

/-- Whether the string holds nothing but blanks. -/
def isBlankText (s : String) : Bool :=
  allBlank s.toList

@[simp] theorem trimmed_trimmed (s : String) : trimmed (trimmed s) = trimmed s := by
  simp [trimmed]

@[simp] theorem isBlankText_trimmed (s : String) : isBlankText (trimmed s) = isBlankText s := by
  rw [Bool.eq_iff_iff, isBlankText, isBlankText, trimmed, String.toList_ofList,
    ← trim_eq_nil_iff, trim_trim, trim_eq_nil_iff]

end PushNotice.Text
