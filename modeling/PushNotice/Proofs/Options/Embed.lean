import PushNotice.Notice
import PushNotice.Options.Yaml
import PushNotice.Proofs.Json.RoundTrip

/-!
# PushNotice.Proofs.Options.Embed

**Embeds that are given as a structure.** A file of options may hold the embed as an array or an
object, and options hold it as text. Nothing is lost on the way: the text is read as the same value
again, so that the options are valid and the notice is built from that value
(`structured_embed_exact`). A structure that nests too deep to be read again is not cut short, but
makes the options invalid.
-/

namespace PushNotice

/-- A value that can hold others. -/
inductive Json.Structured : Json → Prop where
  | array (items : List Json) : Structured (.array items)
  | object (members : Json.Members) : Structured (.object members)

namespace Options

variable {o : Options} {value : Json}

theorem embedOfValue_structured (h : value.Structured) :
    embedOfValue value = some value.compact := by
  cases h <;> rfl

theorem embedTemplate_of_ofText? {text : String} (given : o.embed = some text)
    (read : Json.ofText? text = some value) : o.embedTemplate = .ok (some value) := by
  rw [embedTemplate, given]
  simp only [read]

/-- Options that name a template are valid if their embed can be read. -/
theorem validate_eq_ok_iff_of_embedTemplate {embed : Option Json}
    (h : o.embedTemplate = .ok embed) :
    o.validate = .ok () ↔ Text.isBlankText o.template = false := by
  rw [validate_eq_ok_iff]
  exact ⟨And.left, fun named => ⟨named, embed, h⟩⟩

theorem validate_of_embedTemplate_eq_error {fault : Fault} (h : o.embedTemplate = .error fault) :
    o.validate = .error (if Text.isBlankText o.template then .templateNameEmpty else fault) := by
  rw [validate, h]
  split <;> rfl

/-- **A structure given as the embed is the embed of the notice**, its members in the order that
they had, unless it nests too deep, which makes the options invalid. What else the options are does
not matter: they are never refused for a structure that can be read. -/
theorem structured_embed_exact (value : Json) (structured : value.Structured) :
    (value.Exact → value.depth ≤ 127 →
      ∃ text, embedOfValue value = some text ∧
        ∀ o : Options, o.embed = some text →
          o.embedTemplate = .ok (some value) ∧
          (o.validate = .ok () ↔ Text.isBlankText o.template = false) ∧
          ∀ template, ∃ design,
            Notice.Design.ofTemplate template o = .ok design ∧ design.embed = value) ∧
      (127 < value.depth →
        ∃ text, embedOfValue value = some text ∧
          ∀ o : Options, o.embed = some text →
            o.embedTemplate = .error .embedNotJson ∧
            o.validate =
              .error (if Text.isBlankText o.template then .templateNameEmpty
                else .embedNotJson)) := by
  constructor
  · intro exact shallow
    refine ⟨value.compact, embedOfValue_structured structured, fun o given => ?_⟩
    have read := embedTemplate_of_ofText? given (Json.ofText?_compact exact shallow)
    refine ⟨read, validate_eq_ok_iff_of_embedTemplate read, fun template => ?_⟩
    rw [Notice.Design.ofTemplate, read]
    exact ⟨_, rfl, rfl⟩
  · intro deep
    refine ⟨value.compact, embedOfValue_structured structured, fun o given => ?_⟩
    have unread : o.embedTemplate = .error .embedNotJson :=
      embedTemplate_eq_error_iff.2 ⟨rfl, _, given, Json.ofText?_compact_of_depth deep⟩
    exact ⟨unread, validate_of_embedTemplate_eq_error unread⟩

/-- Quotes, control characters and the largest numbers are read as they were, and so is the order of
the members; with one array more than allowed around it, null is not read again. -/
theorem structured_embed_exact_edges :
    (∃ text, embedOfValue (.object [("z\"\n", .number (.integer (2 ^ 64 - 1))),
        ("a\\", .array [.number (.integer (-2 ^ 63)), .string "é\x01"])]) = some text ∧
      { initial with embed := some text }.embedTemplate =
        .ok (some (.object [("z\"\n", .number (.integer (2 ^ 64 - 1))),
          ("a\\", .array [.number (.integer (-2 ^ 63)), .string "é\x01"])]))) ∧
    ∃ text, embedOfValue (Nat.repeat (fun value => .array [value]) 128 .null) = some text ∧
      { initial with embed := some text }.validate = .error .embedNotJson := by
  constructor
  · have exact : Json.Exact (.object [("z\"\n", .number (.integer (2 ^ 64 - 1))),
        ("a\\", .array [.number (.integer (-2 ^ 63)), .string "é\x01"])]) := by
      have items : Json.Exact (.array [.number (.integer (-2 ^ 63)), .string "é\x01"]) :=
        .array (List.forall_mem_cons.2 ⟨.integer (by decide) (by decide),
          List.forall_mem_singleton.2 (.string _)⟩)
      exact .object (by decide) (List.forall_mem_cons.2 ⟨.integer (by decide) (by decide),
        List.forall_mem_singleton.2 items⟩)
    obtain ⟨text, stored, read⟩ :=
      (structured_embed_exact _ (.object _)).1 exact (by decide)
    exact ⟨text, stored, (read _ rfl).1⟩
  · obtain ⟨text, stored, refused⟩ :=
      (structured_embed_exact (Nat.repeat (fun value => .array [value]) 128 .null)
        (.array _)).2 (by decide +kernel)
    have named : ¬ Text.isBlankText initial.template = true := by decide
    exact ⟨text, stored, (refused _ rfl).2.trans (congrArg _ (if_neg named))⟩

end Options

end PushNotice
