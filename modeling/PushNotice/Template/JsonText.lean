import PushNotice.Flaw
import PushNotice.Json.Reader
import PushNotice.Template.Basic

/-!
# PushNotice.Template.JsonText

**Templates written as JSON.** A template is an object with the members `message`, `embed` and,
if it likes, `extras`, or an array of their values in this order. Other members are skipped, and
of them only the form matters: they may nest to any depth, and their strings and numbers need not
have a value.
-/

namespace PushNotice.Template

open Json (Reader)

/-! ### Values that are skipped -/

/-- The rest of a string of which only the form matters, after its opening quote. -/
def skipString? : Reader Unit
  | [] => none
  | '"' :: rest => some ((), rest)
  | '\\' :: 'u' :: a :: b :: c :: d :: rest =>
    if (Json.unit? a b c d).isSome then skipString? rest else none
  | '\\' :: c :: rest => if (Json.escaped? c).isSome then skipString? rest else none
  | c :: rest => if c.toNat < 0x20 ∨ c = '\\' then none else skipString? rest

/-- A string of which only the form matters. -/
def skippedString? : Reader Unit
  | '"' :: rest => skipString? rest
  | _ => none

/-- A value of which only the form matters and that nests at most `levels` deep. -/
def skipped? : (levels : Nat) → Reader Unit
  | 0, _ => none
  | levels + 1, cs =>
    match cs with
    | '[' :: rest => (Json.itemsOf ']' (skipped? levels) rest).map fun (_, rest) => ((), rest)
    | '\x7b' :: rest =>
      (Json.itemsOf '\x7d' (member levels) rest).map fun (_, rest) => ((), rest)
    | '"' :: _ => skippedString? cs
    | c :: _ =>
      if c = '-' ∨ Decimal.isDigit c then (Json.numeral? cs).map fun (_, rest) => ((), rest)
      else (Json.word? cs).map fun (_, rest) => ((), rest)
    | [] => none
where
  member (levels : Nat) (cs : List Char) : Option (Unit × List Char) :=
    match skippedString? cs with
    | none => none
    | some (_, rest) =>
      match Json.dropSpace rest with
      | ':' :: rest => skipped? levels (Json.dropSpace rest)
      | _ => none

/-! ### Members -/

/-- A member of a template. -/
inductive Field where
  | message (text : String)
  | embed (value : Json)
  | extras (values : List Json)
  | other

/-- A template, as a value that holds other values, takes one of the levels these may nest. -/
def fieldDepth : Nat := Json.maxDepth - 1

/-- An array of values. -/
def values? : Reader (List Json)
  | '[' :: rest => Json.itemsOf ']' (Json.value? (fieldDepth - 1)) rest
  | _ => none

/-- The value of the member with a given key. A value that is skipped nests less deep than the
text is long. -/
def fieldValue? (key : String) (cs : List Char) : Option (Field × List Char) :=
  match key with
  | "message" => (Json.string? cs).map fun (s, rest) => (.message s, rest)
  | "embed" => (Json.value? fieldDepth cs).map fun (v, rest) => (.embed v, rest)
  | "extras" => (values? cs).map fun (vs, rest) => (.extras vs, rest)
  | _ => (skipped? cs.length cs).map fun (_, rest) => (.other, rest)

/-- A member of a template. -/
def field? (cs : List Char) : Option (Field × List Char) :=
  match Json.string? cs with
  | none => none
  | some (key, rest) =>
    match Json.dropSpace rest with
    | ':' :: rest => fieldValue? key (Json.dropSpace rest)
    | _ => none

/-! ### Templates -/

/-- The members of a template found so far. -/
structure Found where
  message : Option String
  embed : Option Json
  extras : Option (List Json)

/-- What has been found, with one more member; nothing if a member stands there twice. -/
def Found.add? (found : Found) : Field → Option Found
  | .message s => if found.message.isSome then none else some { found with message := some s }
  | .embed v => if found.embed.isSome then none else some { found with embed := some v }
  | .extras vs => if found.extras.isSome then none else some { found with extras := some vs }
  | .other => some found

/-- The template with the members that have been found. -/
def Found.template (found : Found) : Except Flaw Template :=
  match found.message, found.embed with
  | none, _ => .error (Flaw.missingField "message")
  | _, none => .error (Flaw.missingField "embed")
  | some message, some embed => .ok ⟨message, embed, found.extras.getD []⟩

/-- The template with the given members. -/
def ofFields (fields : List Field) : Except Flaw Template :=
  match fields.foldlM Found.add? ⟨none, none, none⟩ with
  | some found => found.template
  | none => .error .malformed

/-- The rest of an array after a comma, read as one thing up to the closing bracket or the next
comma. -/
def afterComma? (reader : Reader α) (cs : List Char) : Option (α × List Char) :=
  match Json.dropSpace cs with
  | ',' :: rest => reader (Json.dropSpace rest)
  | _ => none

/-- A template from the values of its members, after the opening bracket. -/
def ofArray? (cs : List Char) : Option (Template × List Char) := do
  let (message, rest) ← Json.string? (Json.dropSpace cs)
  let (embed, rest) ← afterComma? (Json.value? fieldDepth) rest
  let (extras, rest) ←
    match Json.dropSpace rest with
    | ']' :: _ => some ([], rest)
    | _ => afterComma? values? rest
  match Json.dropSpace rest with
  | ']' :: rest => return (⟨message, embed, extras⟩, rest)
  | _ => none

/-- The template that a JSON text describes. -/
def ofJsonText (s : String) : Except Flaw Template :=
  match Json.dropSpace s.toList with
  | '\x7b' :: rest =>
    match Json.itemsOf '\x7d' field? rest with
    | none => .error .malformed
    | some (fields, rest) =>
      match ofFields fields with
      | .error flaw => .error flaw
      | .ok template => if Json.dropSpace rest = [] then .ok template else .error .malformed
  | '[' :: rest =>
    match ofArray? rest with
    | some (template, rest) => if Json.dropSpace rest = [] then .ok template else .error .malformed
    | none => .error .malformed
  | _ => .error .malformed

end PushNotice.Template
