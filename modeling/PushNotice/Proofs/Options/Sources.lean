import PushNotice.Proofs.Json.Scalar
import PushNotice.Proofs.Notice.Firmness
import PushNotice.Proofs.Options.Embed
import PushNotice.Proofs.Options.Patterns
import PushNotice.Proofs.Result

/-!
# PushNotice.Proofs.Options.Sources

**One reading, whatever the source.** A value in a file that holds no others is read like the input
that is its plain text: flags and patterns always are (`values_read_as_inputs`), and the embed is with
one exception (`embed_read_as_input_iff`). The number zero switches nothing off in a file: it becomes
the embed `0`, while the input `0` leaves the embed to the template. The texts of all other numbers
have a mark or a digit that the words for switching off lack (`isOff_text_iff`).
-/

namespace PushNotice

/-! ### Texts of numbers -/

namespace Json

theorem mark_mem_positional (digits : List Char) (exponent : Int) :
    '.' ∈ positional digits exponent := by
  unfold positional
  dsimp only
  split
  · simp
  · split <;> simp

/-- The text of a floating-point number is never that of an integer. -/
theorem mark_mem_floatText (x : Binary64) : '.' ∈ floatText x ∨ 'e' ∈ floatText x := by
  unfold floatText
  dsimp only
  split
  · exact .inl (by simp)
  · split
    · exact .inl (List.mem_append_right _ (mark_mem_positional _ _))
    · exact .inr (by simp [scientific])

theorem text_eq_zero_iff {n : Number} : n.text = ['0'] ↔ n = .integer 0 := by
  constructor
  · intro h
    cases n with
    | integer i =>
      change integerText i = ['0'] at h
      cases i with
      | ofNat k =>
        have value : k = Nat.ofDigitChars 10 ['0'] 0 := h ▸ Nat.ofDigitChars_ten_toDigits.symm
        rw [value]
        rfl
      | negSucc k => simp [integerText] at h
    | float x =>
      change floatText x = ['0'] at h
      simpa [h] using mark_mem_floatText x
  · rintro rfl
    rfl

section

variable {c : Char} (h : isNumeralChar c = true)

include h

theorem toLower_of_numeralChar : c.toLower = c ∨ c = 'E' := by
  rw [isNumeralChar, Bool.or_eq_true] at h
  rcases h with digit | mark
  · obtain ⟨-, high⟩ := isDigit_iff.1 digit
    refine .inl (dif_neg ?_)
    exact fun upper => absurd (UInt32.le_trans upper.1 high) (by decide)
  · have marks : ['-', '+', '.', 'e', 'E'].all (fun c => c.toLower == c || c == 'E') = true := by
      decide
    simpa using List.all_eq_true.1 marks c (List.contains_iff_mem.1 mark)

theorem isBlank_of_numeralChar : Text.isBlank c = false := by
  rw [isNumeralChar, Bool.or_eq_true] at h
  rcases h with digit | mark
  · exact Text.isBlank_of_digit (isDigit_iff.1 digit)
  · have marks : ['-', '+', '.', 'e', 'E'].all (!Text.isBlank ·) = true := by decide
    simpa using List.all_eq_true.1 marks c (List.contains_iff_mem.1 mark)

end

/-- A value holds others or has a plain text. -/
theorem structured_or_hasPlainText (value : Json) :
    value.Structured ∨ ∃ text, value.HasPlainText text := by
  cases value with
  | null => exact .inr ⟨_, .null⟩
  | bool b => exact .inr ⟨_, .bool b⟩
  | number n => exact .inr ⟨_, .number n⟩
  | string s => exact .inr ⟨_, .string s⟩
  | array items => exact .inl (.array items)
  | object members => exact .inl (.object members)

end Json

namespace Options

/-- **Of the texts of numbers, that of zero alone switches an option off.** -/
theorem isOff_text_iff {n : Json.Number} :
    isOff (String.ofList n.text) = true ↔ n = .integer 0 := by
  obtain ⟨nonempty, numeral⟩ := Json.isNumeralText_text n
  have whole : Text.trimmed (String.ofList n.text) = String.ofList n.text := by
    rw [Text.trimmed, String.toList_ofList,
      Text.trim_eq_self fun c mem => Json.isBlank_of_numeralChar (numeral c mem)]
  rw [isOff, whole, List.contains_iff_mem, ← Json.text_eq_zero_iff]
  constructor
  · intro off
    have word : n.text.map Char.toLower ∈ offWords.map String.toList := by
      refine List.mem_map.2 ⟨_, off, ?_⟩
      exact String.toList_map.trans (congrArg _ String.toList_ofList)
    cases text : n.text with
    | nil => exact absurd text nonempty
    | cons c cs =>
      rw [text] at word numeral
      rcases Json.toLower_of_numeralChar (numeral c List.mem_cons_self) with same | rfl
      · obtain ⟨rfl, -⟩ | ⟨rfl, -⟩ | ⟨rfl, rfl⟩ :
            c = 'f' ∧ cs.map Char.toLower = ['a', 'l', 's', 'e'] ∨
              (c = 'n' ∧ ∃ d, cs = [d] ∧ d.toLower = 'o') ∨ c = '0' ∧ cs = [] := by
          simpa [offWords, same] using word
        · exact absurd (numeral 'f' List.mem_cons_self) (by decide)
        · exact absurd (numeral 'n' List.mem_cons_self) (by decide)
        · rfl
      · simp [offWords] at word
  · intro zero
    rw [zero]
    decide +kernel

/-- Zero as it is written in a file. -/
def zeroNode : Yaml.Node := .scalar ⟨none, none⟩ ['0'] true

theorem run_readValue_zeroNode (anchors : Yaml.Anchors) (left : Nat) :
    (Yaml.readValue anchors Yaml.fieldDepth zeroNode).run left =
      .ok (.number (.integer 0), left) := by
  rw [zeroNode, Yaml.readValue_scalar]
  rfl

/-! ### Flags and patterns -/

variable {value : Json} {text : String}

theorem flagOfValue_of_hasPlainText (plain : value.HasPlainText text) :
    flagOfValue value = .ok (flagOfInput text) := by
  cases plain with
  | null => exact congrArg _ (flagOfInput_blank "" rfl).symm
  | bool b =>
    have spelled : flagOfInput (if b then "true" else "false") = b := by
      cases b <;> decide +kernel
    exact congrArg Except.ok spelled.symm
  | number n => rfl
  | string s => rfl

theorem patternsOfValue_of_hasPlainText (plain : value.HasPlainText text) :
    patternsOfValue value = .ok (linesOfInput text) := by
  cases plain with
  | null => rfl
  | bool b => cases b <;> rfl
  | number n => rfl
  | string s => rfl

theorem flagOfValue_of_structured (h : value.Structured) :
    flagOfValue value =
      .error (.unexpected ("expected a boolean or string, found " ++ value.compact)) := by
  cases h <;> rfl

/-- What is said of a value that cannot be a pattern. -/
def notPattern (value : Json) : Flaw :=
  .unexpected ("expected a pattern string, found " ++ value.compact)

theorem scalarText?_of_structured (h : value.Structured) :
    scalarText? value = .error (notPattern value) := by
  cases h <;> rfl

theorem exists_scalarText?_of_not_structured (h : ¬ value.Structured) :
    ∃ text, scalarText? value = .ok text := by
  obtain ⟨text, plain⟩ := value.structured_or_hasPlainText.resolve_left h
  rcases scalarText?_of_hasPlainText plain with written | ⟨-, missing⟩
  · exact ⟨_, written⟩
  · exact ⟨_, missing⟩

theorem patternsOfItems_of_isFirst {items : List Json}
    (first : IsFirst Json.Structured items value) :
    patternsOfItems items = .error (notPattern value) := by
  rw [patternsOfItems, mapM_eq_error_of_isFirst first
    (fun _ => exists_scalarText?_of_not_structured) (scalarText?_of_structured first.has)]
  rfl

theorem exists_plainTexts {items : List Json} (h : ∀ item ∈ items, ¬ item.Structured) :
    ∃ texts, List.Forall₂ Json.HasPlainText items texts := by
  induction items with
  | nil => exact ⟨[], .nil⟩
  | cons item items ih =>
    obtain ⟨here, later⟩ := List.forall_mem_cons.1 h
    obtain ⟨text, plain⟩ := item.structured_or_hasPlainText.resolve_left here
    obtain ⟨texts, plains⟩ := ih later
    exact ⟨text :: texts, .cons plain plains⟩

/-- **Flags and patterns are read alike from all sources.** A value that holds no others gives what
its plain text gives as an input. A flag is no value that holds others. Neither is a list of patterns,
but for an array of values that hold none: these are its patterns as far as anything is left of their
plain texts without the blanks at the ends. Otherwise the first one that holds others is to blame. -/
theorem values_read_as_inputs :
    (∀ value text, value.HasPlainText text →
      (∀ flag ∈ Setting.flags,
        FieldGives flag.name value initial (.ok (initial.apply (flag.input text)))) ∧
      ∀ patterns ∈ Setting.patternLists,
        FieldGives patterns.name value initial (.ok (initial.apply (patterns.input text)))) ∧
    (∀ flag ∈ Setting.flags, ∀ value o, value.Structured →
      FieldGives flag.name value o
        (.error (.unexpected ("expected a boolean or string, found " ++ value.compact)))) ∧
    ∀ patterns ∈ Setting.patternLists, ∀ o,
      (∀ members, FieldGives patterns.name (.object members) o
        (.error (notPattern (.object members)))) ∧
      ∀ items,
        ((∃ item ∈ items, item.Structured) → ∃ item, IsFirst Json.Structured items item ∧
          FieldGives patterns.name (.array items) o (.error (notPattern item))) ∧
        ((∀ item ∈ items, ¬ item.Structured) → ∃ texts kept,
          List.Forall₂ Json.HasPlainText items texts ∧ Text.Pared texts kept ∧
          FieldGives patterns.name (.array items) o (.ok (patterns.put kept o))) := by
  refine ⟨fun value text plain => ⟨fun flag isFlag => ?_, fun patterns isList => ?_⟩,
    fun flag isFlag value o structured => ?_, fun patterns isList o => ?_⟩
  · obtain ⟨ofValue, ofInput⟩ := Setting.of_mem_flags isFlag
    refine flag.fieldGives_of_ofValue ?_
    rw [ofValue, ofInput, flagOfValue_of_hasPlainText plain]
  · obtain ⟨ofValue, ofInput⟩ := Setting.of_mem_patternLists isList
    refine patterns.fieldGives_of_ofValue ?_
    rw [ofValue, ofInput, patternsOfValue_of_hasPlainText plain]
  · refine flag.fieldGives_of_error ?_ o
    rw [(Setting.of_mem_flags isFlag).1, flagOfValue_of_structured structured]
  · have ofValue := (Setting.of_mem_patternLists isList).1
    refine ⟨fun members => patterns.fieldGives_of_error (by rw [ofValue]; rfl) o,
      fun items => ⟨?_, fun scalars => ?_⟩⟩
    · rintro ⟨item, mem, structured⟩
      obtain ⟨first, isFirst⟩ := exists_isFirst mem structured
      refine ⟨first, isFirst, patterns.fieldGives_of_error ?_ o⟩
      rw [ofValue]
      exact patternsOfItems_of_isFirst isFirst
    · obtain ⟨texts, plain⟩ := exists_plainTexts scalars
      have read : patterns.ofValue (.array items) = .ok (Text.pare texts) := by
        rw [ofValue]
        exact patternsOfItems_of_plainTexts plain
      have given := patterns.fieldGives (.array items) o
      rw [read] at given
      exact ⟨texts, _, plain, Text.pared_iff.2 rfl, given⟩

/-- A zero in a file switches a flag off. Null and blank items of a list do not count, numbers and
truth values do, and the first of two structures among the items is to blame. -/
theorem values_read_as_inputs_mixed :
    let items : List Json :=
      [.string " WIP ", .number (.integer 123), .null, .bool true, .string "\u3000"]
    (∃ reader, fieldReaders [] "last-commit-only" = some reader ∧
      (reader zeroNode initial).run 0 = .ok (initial, 0)) ∧
    (∀ item ∈ items, ¬ item.Structured) ∧
    FieldGives "exclude-commits" (.array items) initial
      (.ok { initial with excludeCommits := ["WIP", "123", "true"] }) ∧
    FieldGives "include-commits" (.array [.string "a", .object [], .array []]) initial
      (.error (.unexpected "expected a pattern string, found \x7b\x7d")) := by
  intro items
  obtain ⟨scalars, -, lists⟩ := values_read_as_inputs
  have plain : ∀ item ∈ items, ¬ item.Structured := by
    rintro item mem ⟨⟩ <;> simp [items] at mem
  refine ⟨?_, plain, ?_, ?_⟩
  · obtain ⟨reader, named, gives⟩ :=
      (scalars _ _ (.number (.integer 0))).1 .lastCommitOnly List.mem_cons_self []
    have unset : initial.apply (Setting.lastCommitOnly.input "0") = initial := by decide +kernel
    exact ⟨reader, named, (gives _ _ _ (run_readValue_zeroNode [] 0)).trans
      (congrArg (fun o => Except.ok (o, 0)) unset)⟩
  · obtain ⟨texts, kept, spelled, pared, given⟩ :=
      ((lists .excludeCommits (by simp [Setting.patternLists]) initial).2 items).2 plain
    dsimp only [items] at spelled
    obtain _ | ⟨⟨_⟩, _ | ⟨⟨_⟩, _ | ⟨⟨_⟩, _ | ⟨⟨_⟩, _ | ⟨⟨_⟩, ⟨⟩⟩⟩⟩⟩⟩ := spelled
    obtain rfl : kept = ["WIP", "123", "true"] :=
      (Text.pared_iff.1 pared).symm.trans (by decide +kernel)
    exact given
  · obtain ⟨item, first, given⟩ :=
      ((lists .includeCommits List.mem_cons_self initial).2
        [.string "a", .object [], .array []]).1 ⟨.object [], by simp, .object []⟩
    obtain rfl : item = .object [] := by
      rcases first with ⟨⟨⟩⟩ | ⟨-, ⟨_⟩ | ⟨lacks, -⟩⟩
      · rfl
      · exact absurd (.object []) lacks
    exact given

/-! ### The embed -/

theorem embedOfValue_of_hasPlainText (plain : value.HasPlainText text)
    (other : value ≠ .number (.integer 0)) : embedOfValue value = textOfInput? text := by
  cases plain with
  | null => exact (if_pos (isOff_of_blank rfl)).symm
  | bool b => cases b <;> decide +kernel
  | number n =>
    have on : ¬ isOff (String.ofList n.text) = true := fun off =>
      other (congrArg Json.number (isOff_text_iff.1 off))
    exact (if_neg on).symm
  | string s => rfl

theorem apply_embed_of_isOff (off : isOff text = true) :
    initial.apply (Setting.embed.input text) = initial := by
  rw [Setting.embed.apply_input_initial]
  change { initial with embed := textOfInput? text } = initial
  rw [textOfInput?, if_pos off]
  rfl

/-- A notice with the embed `0` has no embed for any commit. -/
theorem embeds_of_embed_zero {o : Options} (given : o.embed = some "0") (template : Template) :
    ∃ design, Notice.Design.ofTemplate template o = .ok design ∧
      ∀ resolve filter context commits,
        (Notice.build resolve design filter context commits).embeds =
          Notice.extraPart resolve design context := by
  have exact : Json.Exact (.number (.integer 0)) := .integer (by decide) (by decide)
  have read : Json.ofText? "0" = some (.number (.integer 0)) :=
    Json.ofText?_compact exact (by decide)
  rw [Notice.Design.ofTemplate, embedTemplate_of_ofText? given read]
  exact ⟨_, rfl, Notice.build_embeds_of_falsy (fun _ => Json.noConfusion) rfl⟩

/-- **The embed is read alike from all sources but for the number zero.** Any other value that holds
no others gives the embed that its plain text gives as an input. A text that switches the embed off
leaves it to the template as an input, and so does a value with that text in a file, if it is not the
number zero. This one becomes the embed `0`, so that no commit has an embed any more. -/
theorem embed_read_as_input_iff (plain : value.HasPlainText text) :
    (FieldGives Setting.embed.name value initial
        (.ok (initial.apply (Setting.embed.input text))) ↔ value ≠ .number (.integer 0)) ∧
    (isOff text = true → initial.apply (Setting.embed.input text) = initial) ∧
    (value = .number (.integer 0) → isOff text = true ∧
      FieldGives Setting.embed.name value initial (.ok { initial with embed := some "0" }) ∧
      ∀ o : Options, o.embed = some "0" → ∀ template, ∃ design,
        Notice.Design.ofTemplate template o = .ok design ∧
        ∀ resolve filter context commits,
          (Notice.build resolve design filter context commits).embeds =
            Notice.extraPart resolve design context) := by
  have zeroGives : FieldGives Setting.embed.name (.number (.integer 0)) initial
      (.ok { initial with embed := some "0" }) := Setting.embed.fieldGives _ _
  have zeroIsOff : ∀ {text}, Json.HasPlainText (.number (.integer 0)) text → isOff text = true := by
    rintro _ ⟨⟩
    exact isOff_text_iff.2 rfl
  refine ⟨⟨?_, fun other => ?_⟩, apply_embed_of_isOff, ?_⟩
  · rintro same rfl
    rw [apply_embed_of_isOff (zeroIsOff plain)] at same
    have equal := Except.ok.inj (zeroGives.unique (run_readValue_zeroNode [] 0) same)
    exact absurd (congrArg Options.embed equal) (by decide)
  · exact Setting.embed.fieldGives_of_ofValue
      (congrArg Except.ok (embedOfValue_of_hasPlainText plain other))
  · rintro rfl
    exact ⟨zeroIsOff plain, zeroGives, fun _ given => embeds_of_embed_zero given⟩

/-- A word in capitals with blanks around it leaves the embed to the template, in a file and as an
input. -/
theorem embed_read_as_input_iff_no :
    (∃ reader, fieldReaders [] "embed" = some reader ∧
      (reader (.scalar ⟨none, none⟩ " NO\t".toList false) initial).run 0 = .ok (initial, 0)) ∧
    initial.apply { Overrides.empty with embed := some " NO\t" } = initial := by
  have off : isOff " NO\t" = true := by decide +kernel
  obtain ⟨same, leaves, -⟩ := embed_read_as_input_iff (.string " NO\t")
  have unset := leaves off
  obtain ⟨reader, named, gives⟩ := same.2 nofun []
  refine ⟨⟨reader, named, ?_⟩, unset⟩
  rw [gives _ 0 0 (by rw [Yaml.readValue_scalar]; rfl), unset]
  rfl

/-- The number zero in a file does not leave the embed to the template, although the input `0`
does. -/
theorem embed_zero_not_read_as_input :
    (¬ ∀ value text, Json.HasPlainText value text →
      embedOfValue value = (initial.apply { Overrides.empty with embed := some text }).embed) ∧
    (ofYaml "embed: 0").toOption = some { initial with embed := some "0" } ∧
    initial.apply { Overrides.empty with embed := some "0" } = initial := by
  refine ⟨fun same => ?_, by decide +kernel, by decide +kernel⟩
  exact absurd (same _ _ (.number (.integer 0))) (by decide +kernel)

end Options

end PushNotice
