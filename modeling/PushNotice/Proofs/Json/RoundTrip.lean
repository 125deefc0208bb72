import PushNotice.Proofs.Json.Scalar

/-!
# PushNotice.Proofs.Json.RoundTrip

**Values are read back from their text.** A value that nests no deeper than the reader allows, with
integers of 64 bits as its only numbers and no key twice in an object, is read back from its text
without spaces, members in their order (`ofText?_compact`). A value that nests deeper is not read
back as anything else: its text is no JSON text (`ofText?_compact_of_depth`). That holds of all
values, so nothing is assumed there about the texts of floating-point numbers.

Arrays and objects are written alike, as parts with commas between them. Both theorems go through
one lemma each on such lists, `itemsOf_listText` and `of_itemsOf_listText`.
-/

namespace PushNotice.Json

/-! ### Lists with commas -/

/-- What is written behind the first thing of a list: the others, each after a comma, and the mark
that closes the list. -/
def tailText (text : α → List Char) (close : Char) (xs : List α) : List Char :=
  xs.flatMap (fun x => ',' :: text x) ++ [close]

/-- What is written behind the mark that opens a list. -/
def listText (text : α → List Char) (close : Char) : List α → List Char
  | [] => [close]
  | x :: xs => text x ++ tailText text close xs

/-- The text starts neither with a space nor with a mark that goes on with a list or closes one. -/
def StartsPart (cs : List Char) : Prop :=
  ∃ c rest, cs = c :: rest ∧ isSpace c = false ∧ c ∉ [',', ']', '\x7d']

theorem dropSpace_cons {c : Char} (h : isSpace c = false) (cs : List Char) :
    dropSpace (c :: cs) = c :: cs := by
  simp [dropSpace, h]

theorem StartsPart.dropSpace_append {cs : List Char} (h : StartsPart cs) (rest : List Char) :
    dropSpace (cs ++ rest) = cs ++ rest := by
  obtain ⟨c, cs, rfl, notSpace, -⟩ := h
  exact dropSpace_cons notSpace _

section Lists

variable {item : Reader α} {text : α → List Char} {close : Char} {x : α} {xs : List α}
  {rest : List Char}

@[simp] theorem tailText_nil : tailText text close [] = [close] := rfl

@[simp] theorem tailText_cons :
    tailText text close (x :: xs) = ',' :: (text x ++ tailText text close xs) := by
  simp [tailText]

variable (closes : close ∈ [']', '\x7d'])

include closes

theorem closes_cases : close ≠ ',' ∧ isSpace close = false ∧ close ∈ [',', ']', '\x7d'] := by
  simp only [List.mem_cons, List.not_mem_nil, or_false] at closes
  rcases closes with rfl | rfl <;> decide

theorem endsValue_tailText : EndsValue (tailText text close xs ++ rest) := by
  intro c first
  cases xs with
  | nil =>
    obtain rfl : close = c := by simpa using first
    exact (closes_cases closes).2.2
  | cons x xs =>
    obtain rfl : ',' = c := by simpa using first
    exact List.mem_cons_self

theorem itemsUntil_close {cs after : List Char} (read : item cs = some (x, close :: after)) :
    itemsUntil close item cs = some ([x], after) := by
  rw [itemsUntil]
  simp [read, dropSpace_cons (closes_cases closes).2.1]

theorem itemsUntil_comma {cs after : List Char} (read : item cs = some (x, ',' :: after))
    (start : dropSpace after = after) (shorter : after.length < cs.length) :
    itemsUntil close item cs =
      (itemsUntil close item after).map fun (xs, rest) => (x :: xs, rest) := by
  have comma : isSpace ',' = false := by decide
  have notClose : ',' ≠ close := Ne.symm (closes_cases closes).1
  rw [itemsUntil]
  simp only [read, dropSpace_cons comma, notClose, if_false, if_true, start, if_pos shorter]
  cases itemsUntil close item after <;> rfl

theorem itemsUntil_tailText (starts : ∀ y, StartsPart (text y))
    (reads : ∀ y ∈ x :: xs, ∀ more, EndsValue more → item (text y ++ more) = some (y, more)) :
    itemsUntil close item (text x ++ (tailText text close xs ++ rest)) = some (x :: xs, rest) := by
  have first := reads x List.mem_cons_self (tailText text close xs ++ rest)
    (endsValue_tailText closes)
  induction xs generalizing x with
  | nil => exact itemsUntil_close closes first
  | cons y ys ih =>
    have readsRest := (List.forall_mem_cons.1 reads).2
    have second := readsRest y List.mem_cons_self (tailText text close ys ++ rest)
      (endsValue_tailText closes)
    rw [tailText_cons, List.cons_append, List.append_assoc] at first ⊢
    rw [itemsUntil_comma closes first ((starts y).dropSpace_append _), ih readsRest second]
    · rfl
    · simp only [List.length_append, List.length_cons]
      omega

/-- **A list with commas is read back**, if its things are. -/
theorem itemsOf_listText (starts : ∀ y, StartsPart (text y))
    (reads : ∀ y ∈ xs, ∀ more, EndsValue more → item (text y ++ more) = some (y, more)) :
    itemsOf close item (listText text close xs ++ rest) = some (xs, rest) := by
  obtain ⟨-, notSpace, mark⟩ := closes_cases closes
  cases xs with
  | nil =>
    unfold itemsOf
    simp [listText, dropSpace_cons notSpace]
  | cons x xs =>
    have read : itemsUntil close item (text x ++ (tailText text close xs ++ rest)) =
        some (x :: xs, rest) := itemsUntil_tailText closes starts reads
    obtain ⟨c, cs, whole, notSpace, notMark⟩ := starts x
    have notClose : c ≠ close := by
      rintro rfl
      exact notMark mark
    unfold itemsOf
    rw [listText, List.append_assoc, (starts x).dropSpace_append]
    rw [whole] at read ⊢
    simp only [List.cons_append, notClose, if_false]
    exact read

end Lists

/-! ### What a reader can have made of a list -/

/-- Where a mark of a list is found next, nothing was left of a numeral in front of it. -/
theorem Spends.eq_of_mark {left rest after : List Char} {c : Char} (h : Spends left rest)
    (mark : c ∈ [',', ']', '\x7d']) (behind : dropSpace left = c :: after) : left = rest := by
  obtain ⟨spent, rfl, numeral⟩ := h
  cases spent with
  | nil => rfl
  | cons d spent =>
    have first := numeral d List.mem_cons_self
    rw [List.cons_append, dropSpace_cons (isSpace_of_numeralChar first)] at behind
    obtain rfl := (List.cons.inj behind).1
    exact absurd mark (not_mark_of_numeralChar first)

section Lists

variable {item : Reader α} {text : α → List Char} {close : Char} {x : α} {xs : List α}
  {rest left : List Char} {zs : List α} {P : α → Prop} (closes : close ∈ [']', '\x7d'])

include closes

/-- If reading goes on behind the text of a thing, then with the mark that follows it. -/
theorem of_itemsUntil_append {Q : Prop} {cs more : List Char}
    (first : ∀ z left, item (cs ++ more) = some (z, left) → Q ∧ Spends left more)
    (read : itemsUntil close item (cs ++ more) = some (zs, left)) :
    Q ∧ ∃ c after, dropSpace more = c :: after ∧
      ((c = close ∧ left = after) ∨
        (c = ',' ∧ ∃ zs', itemsUntil close item (dropSpace after) = some (zs', left))) := by
  have isMark := (closes_cases closes).2.2
  rw [itemsUntil] at read
  split at read
  · simp at read
  · next z behindFirst readFirst =>
    obtain ⟨holds, spends⟩ := first z behindFirst readFirst
    split at read
    · simp at read
    · next c after behind =>
      split at read
      · next isClose =>
        obtain rfl := spends.eq_of_mark (isClose ▸ isMark) behind
        obtain ⟨-, rfl⟩ := Prod.mk.inj (Option.some.inj read)
        exact ⟨holds, c, after, behind, .inl ⟨isClose, rfl⟩⟩
      · split at read
        · next isComma =>
          obtain rfl := spends.eq_of_mark (isComma ▸ List.mem_cons_self) behind
          split at read
          · split at read
            · next zs' left' readMore =>
              obtain ⟨-, rfl⟩ := Prod.mk.inj (Option.some.inj read)
              exact ⟨holds, c, after, behind, .inr ⟨isComma, zs', readMore⟩⟩
            · simp at read
          · simp at read
        · simp at read

variable (starts : ∀ y, StartsPart (text y))

include starts

theorem of_itemsUntil_tailText
    (each : ∀ y ∈ x :: xs, ∀ more z left, EndsValue more →
      item (text y ++ more) = some (z, left) → P y ∧ Spends left more)
    (read : itemsUntil close item (text x ++ (tailText text close xs ++ rest)) = some (zs, left)) :
    (∀ y ∈ x :: xs, P y) ∧ left = rest := by
  obtain ⟨notComma, notSpace, -⟩ := closes_cases closes
  have comma : isSpace ',' = false := by decide
  induction xs generalizing x zs with
  | nil =>
    obtain ⟨holds, c, after, behind, next⟩ := of_itemsUntil_append closes
      (fun z left => each x List.mem_cons_self _ z left (endsValue_tailText closes)) read
    rw [tailText_nil, List.singleton_append, dropSpace_cons notSpace] at behind
    obtain ⟨rfl, rfl⟩ := List.cons.inj behind
    rcases next with ⟨-, rfl⟩ | ⟨isComma, -⟩
    · exact ⟨by simpa using holds, rfl⟩
    · exact absurd isComma notComma
  | cons y ys ih =>
    obtain ⟨holds, c, after, behind, next⟩ := of_itemsUntil_append closes
      (fun z left => each x List.mem_cons_self _ z left (endsValue_tailText closes)) read
    rw [tailText_cons, List.cons_append, List.append_assoc, dropSpace_cons comma] at behind
    obtain ⟨rfl, rfl⟩ := List.cons.inj behind
    rcases next with ⟨isClose, -⟩ | ⟨-, zs', more⟩
    · exact absurd isClose.symm notComma
    · rw [(starts y).dropSpace_append] at more
      obtain ⟨all, rfl⟩ := ih (List.forall_mem_cons.1 each).2 more
      exact ⟨List.forall_mem_cons.2 ⟨holds, all⟩, rfl⟩

/-- **What is read of a list with commas** ends where the list ends. -/
theorem of_itemsOf_listText
    (each : ∀ y ∈ xs, ∀ more z left, EndsValue more →
      item (text y ++ more) = some (z, left) → P y ∧ Spends left more)
    (read : itemsOf close item (listText text close xs ++ rest) = some (zs, left)) :
    (∀ y ∈ xs, P y) ∧ left = rest := by
  obtain ⟨-, notSpace, isMark⟩ := closes_cases closes
  unfold itemsOf at read
  cases xs with
  | nil =>
    rw [listText, List.singleton_append, dropSpace_cons notSpace] at read
    simp only [if_true] at read
    obtain ⟨-, rfl⟩ := Prod.mk.inj (Option.some.inj read)
    exact ⟨by simp, rfl⟩
  | cons x xs =>
    obtain ⟨c, cs, whole, notSpace, notMark⟩ := starts x
    have notClose : c ≠ close := by
      rintro rfl
      exact notMark isMark
    have readItems : itemsUntil close item (text x ++ (tailText text close xs ++ rest)) =
        some (zs, left) := by
      rw [listText, List.append_assoc, (starts x).dropSpace_append] at read
      rw [whole] at read ⊢
      simpa only [List.cons_append, notClose, if_false] using read
    exact of_itemsUntil_tailText closes starts each readItems

end Lists

/-! ### Values -/

/-- A member as it is written. -/
def memberText (member : String × Json) : List Char :=
  quote member.1 ++ ':' :: member.2.write

theorem writeItems_eq (items : List Json) : writeItems items = tailText write ']' items := by
  induction items with
  | nil => rfl
  | cons item items ih => rw [writeItems, tailText_cons, ih]; rfl

theorem writeMembers_eq (members : Members) :
    writeMembers members = tailText memberText '\x7d' members := by
  induction members with
  | nil => rfl
  | cons member members ih =>
    rw [writeMembers, tailText_cons, ih]
    simp [memberText]

theorem write_array (items : List Json) :
    (Json.array items).write = '[' :: listText write ']' items := by
  cases items with
  | nil => rfl
  | cons item items => rw [write, writeItems_eq]; rfl

theorem write_object (members : Members) :
    (Json.object members).write = '\x7b' :: listText memberText '\x7d' members := by
  cases members with
  | nil => rfl
  | cons member members =>
    rw [write, writeMembers_eq]
    simp [listText, memberText]

theorem startsPart_memberText (member : String × Json) : StartsPart (memberText member) :=
  ⟨'"', _, rfl, by decide, by decide⟩

theorem startsPart_write (j : Json) : StartsPart j.write := by
  cases j with
  | null => exact ⟨'n', _, rfl, by decide, by decide⟩
  | bool b => cases b <;> exact ⟨_, _, rfl, by decide, by decide⟩
  | number n =>
    obtain ⟨nonempty, numeral⟩ := isNumeralText_text n
    cases text : n.text with
    | nil => exact absurd text nonempty
    | cons c cs =>
      have first := numeral c (text ▸ List.mem_cons_self)
      exact ⟨c, cs, text, isSpace_of_numeralChar first, not_mark_of_numeralChar first⟩
  | string s => exact ⟨'"', _, rfl, by decide, by decide⟩
  | array items => exact ⟨'[', _, write_array items, by decide, by decide⟩
  | object members => exact ⟨'\x7b', _, write_object members, by decide, by decide⟩

theorem string?_memberText (member : String × Json) (rest : List Char) :
    string? (memberText member ++ rest) = some (member.1, ':' :: (member.2.write ++ rest)) := by
  rw [memberText, List.append_assoc, string?_quote]
  rfl

/-- A member is read by its key and whatever reads its value. -/
theorem member?_memberText (value : Reader Json) (member : String × Json) (rest : List Char) :
    member? value (memberText member ++ rest) =
      (value (member.2.write ++ rest)).map fun (j, rest) => ((member.1, j), rest) := by
  have colon : isSpace ':' = false := by decide
  unfold member?
  simp only [string?_memberText, dropSpace_cons colon,
    (startsPart_write member.2).dropSpace_append]

section Values

variable {levels : Nat} {rest : List Char}

theorem value?_zero (cs : List Char) : value? 0 cs = scalar? cs := rfl

theorem scalar?_array (cs : List Char) : scalar? ('[' :: cs) = none := rfl

theorem scalar?_object (cs : List Char) : scalar? ('\x7b' :: cs) = none := rfl

theorem value?_array (cs : List Char) :
    value? (levels + 1) ('[' :: cs) =
      (itemsOf ']' (value? levels) cs).map fun (items, rest) => (.array items, rest) := rfl

theorem value?_object (cs : List Char) :
    value? (levels + 1) ('\x7b' :: cs) =
      (itemsOf '\x7d' (member? (value? levels)) cs).map fun (bindings, rest) =>
        (.object (Members.ofBindings bindings), rest) := rfl

theorem value?_scalar {c : Char} {cs : List Char} (notArray : c ≠ '[') (notObject : c ≠ '\x7b') :
    value? levels (c :: cs) = scalar? (c :: cs) := by
  cases levels with
  | zero => rfl
  | succ levels =>
    rw [value?]
    · simp [notArray]
    · simp [notObject]

end Values

theorem value?_numeralText {text : List Char} (h : IsNumeralText text) (levels : Nat)
    (rest : List Char) : value? levels (text ++ rest) = scalar? (text ++ rest) := by
  obtain ⟨nonempty, numeral⟩ := h
  cases text with
  | nil => exact absurd rfl nonempty
  | cons c text =>
    have first := numeral c List.mem_cons_self
    refine value?_scalar ?_ ?_ <;> rintro rfl <;> exact absurd first (by decide)

/-- What JSON text keeps: integers of 64 bits are the only numbers of the value, and no object in it
has a key twice. -/
inductive Exact : Json → Prop where
  | null : Exact .null
  | bool (b : Bool) : Exact (.bool b)
  | integer {i : Int} (low : -2 ^ 63 ≤ i) (high : i < 2 ^ 64) : Exact (.number (.integer i))
  | string (s : String) : Exact (.string s)
  | array {items : List Json} (exact : ∀ item ∈ items, Exact item) : Exact (.array items)
  | object {members : Members} (distinct : (members.map Prod.fst).Nodup)
      (exact : ∀ member ∈ members, Exact member.2) : Exact (.object members)

/-- **A value is read back from its text**, with as many levels as it has or more. -/
theorem value?_write {j : Json} (h : j.Exact) :
    ∀ {levels : Nat} {rest : List Char}, j.depth ≤ levels → EndsValue rest →
      value? levels (j.write ++ rest) = some (j, rest) := by
  induction h with
  | null =>
    intro levels rest _ _
    exact value?_scalar (c := 'n') (by decide) (by decide)
  | bool b =>
    intro levels rest _ _
    cases b with
    | true => exact value?_scalar (c := 't') (by decide) (by decide)
    | false => exact value?_scalar (c := 'f') (by decide) (by decide)
  | @integer i low high =>
    intro levels rest _ ends
    rw [write, value?_numeralText (isNumeralText_text _)]
    exact scalar?_integerText low high ends
  | string s =>
    intro levels rest _ _
    have read : value? levels (quote s ++ rest) = scalar? (quote s ++ rest) :=
      value?_scalar (c := '"') (by decide) (by decide)
    rw [write, read, scalar?_quote]
  | @array items _ ih =>
    intro levels rest deep ends
    rw [depth] at deep
    obtain ⟨levels, rfl⟩ : ∃ n, levels = n + 1 := ⟨levels - 1, by omega⟩
    have shallow := depthItems_le_iff.1 (Nat.le_of_succ_le_succ deep)
    have reads : ∀ item ∈ items, ∀ more, EndsValue more →
        value? levels (item.write ++ more) = some (item, more) :=
      fun item mem more ends => ih item mem (shallow item mem) ends
    rw [write_array, List.cons_append, value?_array,
      itemsOf_listText (by simp) startsPart_write reads]
    rfl
  | @object members distinct _ ih =>
    intro levels rest deep ends
    rw [depth] at deep
    obtain ⟨levels, rfl⟩ : ∃ n, levels = n + 1 := ⟨levels - 1, by omega⟩
    have shallow := depthMembers_le_iff.1 (Nat.le_of_succ_le_succ deep)
    have reads : ∀ member ∈ members, ∀ more, EndsValue more →
        member? (value? levels) (memberText member ++ more) = some (member, more) := by
      -- The value of a member nests one level less than the object.
      intro member mem more ends
      rw [member?_memberText, ih member mem (shallow member mem) ends]
      rfl
    rw [write_object, List.cons_append, value?_object,
      itemsOf_listText (by simp) startsPart_memberText reads]
    simp only [Option.map_some, Members.ofBindings_eq_self distinct]

theorem of_exact {j read : Json} (h : j.Exact) (flat : j.depth = 0) {levels : Nat}
    {rest left : List Char} (ends : EndsValue rest)
    (found : value? levels (j.write ++ rest) = some (read, left)) :
    j.depth ≤ levels ∧ Spends left rest := by
  have shallow : j.depth ≤ levels := flat ▸ Nat.zero_le levels
  rw [value?_write h shallow ends] at found
  obtain ⟨-, rfl⟩ := Prod.mk.inj (Option.some.inj found)
  exact ⟨shallow, .refl _⟩

/-- **What is read of the text of a value** ends where the text ends or, if the value is a number,
in its text; and a value that is read has no more levels than were to be had. -/
theorem of_value?_write (j : Json) :
    ∀ {levels : Nat} {rest left : List Char} {read : Json}, EndsValue rest →
      value? levels (j.write ++ rest) = some (read, left) →
        j.depth ≤ levels ∧ Spends left rest := by
  -- With floating-point numbers among the values, what is read need not be what was written. But
  -- reading stays within the text, so that a mark behind it is still there to be found.
  induction j using Json.inductionOn with
  | null => exact fun ends found => of_exact .null rfl ends found
  | bool b => exact fun ends found => of_exact (.bool b) rfl ends found
  | number n =>
    intro levels rest left read ends found
    rw [write, value?_numeralText (isNumeralText_text n)] at found
    exact ⟨Nat.zero_le _, spends_of_scalar? (isNumeralText_text n) ends found⟩
  | string s => exact fun ends found => of_exact (.string s) rfl ends found
  | array items ih =>
    intro levels rest left read ends found
    cases levels with
    | zero =>
      rw [write_array, List.cons_append, value?_zero, scalar?_array] at found
      simp at found
    | succ levels =>
      rw [write_array, List.cons_append, value?_array] at found
      obtain ⟨⟨reads, left'⟩, foundItems, same⟩ := Option.map_eq_some_iff.1 found
      obtain ⟨-, rfl⟩ := Prod.mk.inj same
      obtain ⟨shallow, rfl⟩ := of_itemsOf_listText (by simp) startsPart_write
        (fun item mem more z left => ih item mem) foundItems
      exact ⟨Nat.succ_le_succ (depthItems_le_iff.2 shallow), .refl _⟩
  | object members ih =>
    intro levels rest left read ends found
    cases levels with
    | zero =>
      rw [write_object, List.cons_append, value?_zero, scalar?_object] at found
      simp at found
    | succ levels =>
      rw [write_object, List.cons_append, value?_object] at found
      obtain ⟨⟨reads, left'⟩, foundMembers, same⟩ := Option.map_eq_some_iff.1 found
      obtain ⟨-, rfl⟩ := Prod.mk.inj same
      have each : ∀ member ∈ members, ∀ more z left, EndsValue more →
          member? (value? levels) (memberText member ++ more) = some (z, left) →
            member.2.depth ≤ levels ∧ Spends left more := by
        intro member mem more z left ends found
        rw [member?_memberText] at found
        obtain ⟨⟨value, left'⟩, foundValue, same⟩ := Option.map_eq_some_iff.1 found
        obtain ⟨-, rfl⟩ := Prod.mk.inj same
        exact ih member mem ends foundValue
      obtain ⟨shallow, rfl⟩ := of_itemsOf_listText (by simp) startsPart_memberText each foundMembers
      exact ⟨Nat.succ_le_succ (depthMembers_le_iff.2 shallow), .refl _⟩

/-! ### Whole texts -/

theorem dropSpace_write (j : Json) : dropSpace j.write = j.write := by
  have start := (startsPart_write j).dropSpace_append []
  rwa [List.append_nil] at start

/-- **The text of a value is read as the value**, if it nests no deeper than is allowed. -/
theorem ofText?_compact {j : Json} (h : j.Exact) (deep : j.depth ≤ maxDepth) :
    ofText? j.compact = some j := by
  have read : value? maxDepth (j.write ++ []) = some (j, []) :=
    value?_write h deep (by simp [EndsValue])
  rw [List.append_nil] at read
  unfold ofText? wholeText?
  rw [compact, String.toList_ofList, dropSpace_write]
  simp [read, dropSpace]

/-- **The text of a value that nests deeper than is allowed is no JSON text.** -/
theorem ofText?_compact_of_depth {j : Json} (deep : maxDepth < j.depth) :
    ofText? j.compact = none := by
  unfold ofText? wholeText?
  rw [compact, String.toList_ofList, dropSpace_write]
  cases found : value? maxDepth j.write with
  | none => rfl
  | some result =>
    obtain ⟨read, left⟩ := result
    rw [← List.append_nil j.write] at found
    have shallow := (of_value?_write j (by simp [EndsValue]) found).1
    omega

end PushNotice.Json
