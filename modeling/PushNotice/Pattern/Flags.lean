import PushNotice.Text.Blank

/-!
# PushNotice.Pattern.Flags

**Flags of a pattern.** Flags are switched on and off by letters between `(?` and `)` or `:`; the
letters after a dash are switched off. Every letter may stand once.
-/

namespace PushNotice.Pattern

/-- The flags that hold at a place of a pattern. Whether repetitions are greedy does not matter
to a search that only asks if there is a match, so that flag is read and not kept. -/
structure Flags where
  caseless : Bool
  multiLine : Bool
  dotAll : Bool
  crlf : Bool
  unicode : Bool
  verbose : Bool
deriving DecidableEq, Repr

/-- The flags at the start of a pattern. -/
def Flags.initial : Flags :=
  ⟨false, false, false, false, true, false⟩

/-- The flags with the one of a letter set; nothing if the letter is not that of a flag. -/
def Flags.set? (flags : Flags) (letter : Char) (on : Bool) : Option Flags :=
  match letter with
  | 'i' => some { flags with caseless := on }
  | 'm' => some { flags with multiLine := on }
  | 's' => some { flags with dotAll := on }
  | 'R' => some { flags with crlf := on }
  | 'u' => some { flags with unicode := on }
  | 'x' => some { flags with verbose := on }
  | 'U' => some flags
  | _ => none

/-- What a list of flag letters comes to: the flags, whether `)` rather than `:` ends the list, and
what follows. The state of the reading is the letters seen and whether the last one was a dash. -/
structure FlagList where
  flags : Flags
  closed : Bool
  rest : List Char

/-- Reads flag letters up to a `:` or a `)`. A list that ends with a dash is none, and neither is
an empty one that `)` ends. -/
def readFlags (flags : Flags) (seen : List Char) (afterDash : Bool) :
    List Char → Option FlagList
  | [] => none
  | c :: rest =>
    if c = ':' then if afterDash then none else some ⟨flags, false, rest⟩
    else if c = ')' then if afterDash || seen.isEmpty then none else some ⟨flags, true, rest⟩
    else if seen.contains c then none
    else if c = '-' then readFlags flags (c :: seen) true rest
    else
      match flags.set? c (!seen.contains '-') with
      | some flags => readFlags flags (c :: seen) false rest
      | none => none

/-! ### Space that does not count

With the flag for it set, white space and comments from `#` to the end of the line are skipped. -/

mutual

def dropFree : List Char → List Char
  | [] => []
  | c :: rest =>
    if Text.isBlank c then dropFree rest else if c = '#' then dropComment rest else c :: rest

def dropComment : List Char → List Char
  | [] => []
  | c :: rest => if c = '\n' then dropFree rest else dropComment rest

end

/-- The characters that are left once those that do not count are skipped. -/
def Flags.skip (flags : Flags) (cs : List Char) : List Char :=
  if flags.verbose then dropFree cs else cs

/-- The character after the next one, past what does not count; at the end, or within a comment,
the one after that. -/
def Flags.peek? (flags : Flags) (rest : List Char) : Option Char :=
  if flags.verbose then
    match rest.dropWhile Text.isBlank with
    | '#' :: more => (more.dropWhile Text.isBlank).head? <|> rest.head?
    | [] => rest.head?
    | c :: _ => some c
  else rest.head?

end PushNotice.Pattern
