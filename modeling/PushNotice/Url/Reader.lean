import PushNotice.Decimal.Unsigned
import PushNotice.Url.Basic

/-!
# PushNotice.Url.Reader

**Reading URLs.** The scheme decides how the rest is read: a URL of the web is taken to pieces,
of a file or another scheme only the host is looked at. Tabs and line ends are left out, and a
backslash is as good as a slash in a URL of the web.
-/

namespace PushNotice.Url

/-! ### Scheme -/

/-- The characters of a scheme after its first one. -/
def isSchemeChar (c : Char) : Bool :=
  c.isAlphanum || c == '+' || c == '-' || c == '.'

/-- The scheme at the start of a text, and what follows its colon. -/
def readScheme? (cs : List Char) : Option (Scheme × List Char) :=
  match cs, cs.dropWhile isSchemeChar with
  | c :: _, ':' :: rest =>
    if c.isAlpha then some (.ofName ((cs.takeWhile isSchemeChar).map Char.toLower), rest) else none
  | _, _ => none

/-! ### Authority -/

/-- Whether a character ends the authority. -/
def endsAuthority (special : Bool) (c : Char) : Bool :=
  c == '/' || c == '?' || c == '#' || (special && c == '\\')

/-- The characters before and after the last at sign. -/
def cutAtLastAt? (cs : List Char) : Option (List Char × List Char) :=
  let after := (cs.reverse.takeWhile (· != '@')).reverse
  if after.length < cs.length then some (cs.take (cs.length - after.length - 1), after) else none

/-- Credentials in their encoded form. A password that is empty is left out with its colon. -/
def encodeCredentials (cs : List Char) : List Char :=
  let user := cs.takeWhile (· != ':')
  let password := (cs.dropWhile (· != ':')).drop 1
  percentEncode userinfoSet user ++
    if password.isEmpty then [] else ':' :: percentEncode userinfoSet password

/-- The host at the start of an authority, and the rest, which is empty or starts with a colon.
A colon within brackets belongs to the host. -/
def spanHost (bracketed : Bool) : List Char → List Char × List Char
  | [] => ([], [])
  | c :: cs =>
    if c = ':' ∧ bracketed = false then ([], c :: cs)
    else
      let bracketed := if c = '[' then true else if c = ']' then false else bracketed
      let (host, rest) := spanHost bracketed cs
      (c :: host, rest)

/-- The port that digits stand for, unless it is the usual one of the scheme. -/
def readPort (scheme : Scheme) (digits : List Char) : Except ParseError (Option Nat) :=
  if digits.isEmpty then .ok none
  else
    match Decimal.valueFrom? 0 digits with
    | some port =>
      if 65535 < port then .error .badPort
      else .ok (if scheme.defaultPort? = some port then none else some port)
    | none => .error .badPort

/-- The host of a URL with the given scheme. -/
def readHost (scheme : Scheme) (cs : List Char) : Except ParseError Host :=
  if scheme.needsHost && cs.isEmpty then .error .emptyHost
  else if scheme.isSpecial then Host.ofText cs
  else Host.ofOpaqueText cs

/-- The host and the port in `cs`, which follow the credentials. -/
def readHostAndPort (scheme : Scheme) (credentials cs : List Char) :
    Except ParseError Authority := do
  let (hostChars, rest) := spanHost false cs
  let host ← readHost scheme hostChars
  if host = .domain [] ∧ (rest ≠ [] ∨ credentials ≠ []) then .error .emptyHost
  else return ⟨credentials, host, ← readPort scheme (rest.drop 1)⟩

/-- The authority at the start of a text, and the rest. -/
def readAuthority (scheme : Scheme) (cs : List Char) :
    Except ParseError (Authority × List Char) := do
  let inside := cs.takeWhile (!endsAuthority scheme.isSpecial ·)
  let rest := cs.drop inside.length
  match cutAtLastAt? inside with
  | none => return (← readHostAndPort scheme [] inside, rest)
  | some ([], []) =>
    if rest.isEmpty then return (← readHostAndPort scheme [] [], rest) else .error .emptyHost
  | some (credentials, hostAndPort) =>
    return (← readHostAndPort scheme (encodeCredentials credentials) hostAndPort, rest)

/-! ### Path -/

/-- Whether a segment stands for the directory itself. -/
def isSingleDot (segment : List Char) : Bool :=
  segment.map Char.toLower ∈ [['.'], ['%', '2', 'e']]

/-- Whether a segment stands for the directory above. -/
def isDoubleDot (segment : List Char) : Bool :=
  segment.map Char.toLower ∈
    [['.', '.'], ['.', '%', '2', 'e'], ['%', '2', 'e', '.'], ['%', '2', 'e', '%', '2', 'e']]

/-- Whether a segment looks like the letter of a drive. -/
def isDriveLetter : List Char → Bool
  | [letter, mark] => letter.isAlpha && (mark == ':' || mark == '|')
  | _ => false

/-- The segments without the last one, which stays if it is the letter of a drive. -/
def dropSegment (segments : List (List Char)) : List (List Char) :=
  match segments.getLast? with
  | some segment => if isDriveLetter segment then segments else segments.dropLast
  | none => []

/-- Goes on from the segments so far; a path that ends in dots ends in a slash. -/
def walkSegments (done : List (List Char)) : List (List Char) → List (List Char)
  | [] => done
  | segment :: rest =>
    let next :=
      if isDoubleDot segment then dropSegment done
      else if isSingleDot segment then done
      else done ++ [segment]
    if rest.isEmpty && (isDoubleDot segment || isSingleDot segment) then next ++ [[]]
    else walkSegments next rest

/-- The segments of the text of a path, which starts with a slash unless it is empty. -/
def readPath (cs : List Char) : List (List Char) :=
  let slashed := cs.map fun c => if c = '\\' then '/' else c
  walkSegments [] ((Text.splitAtMark '/' (slashed.drop 1)).map (percentEncode pathSet))

/-! ### The whole -/

/-- The part of a text before a mark, and the part after it if the mark is there. -/
def cutAtMark (mark : Char) (cs : List Char) : List Char × Option (List Char) :=
  match cs.dropWhile (· != mark) with
  | [] => (cs, none)
  | _ :: after => (cs.takeWhile (· != mark), some after)

/-- A URL of the web from the text after its scheme. -/
def readWeb (scheme : Scheme) (cs : List Char) : Except ParseError Url := do
  let (authority, rest) ← readAuthority scheme (cs.dropWhile fun c => c == '/' || c == '\\')
  let (beforeFragment, fragment) := cutAtMark '#' rest
  let (path, query) := cutAtMark '?' beforeFragment
  return {
    scheme
    authority
    segments := readPath path
    query := query.map (percentEncode specialQuerySet)
    fragment := fragment.map (percentEncode fragmentSet) }

/-- Looks at the host of a file. -/
def checkFile (cs : List Char) : Except ParseError Unit :=
  match cs.map fun c => if c = '\\' then '/' else c with
  | '/' :: '/' :: rest =>
    let host := rest.takeWhile (!endsAuthority true ·)
    if host.isEmpty || isDriveLetter host then .ok ()
    else do
      discard <| Host.ofText host
  | _ => .ok ()

/-- Looks at the authority of a URL that is not of the web. -/
def checkOther (scheme : Scheme) (cs : List Char) : Except ParseError Unit :=
  match cs with
  | '/' :: '/' :: rest => discard <| readAuthority scheme rest
  | _ => .ok ()

/-- What a text refers to. -/
inductive Reference where
  /-- Something with a host in the web. -/
  | web (url : Url)
  /-- Something else, of which only the scheme is known. -/
  | other (scheme : Scheme)
deriving DecidableEq, Repr

/-- Reads the text after a scheme. -/
def Reference.afterScheme (scheme : Scheme) (cs : List Char) : Except ParseError Reference :=
  match scheme with
  | .file => (checkFile cs).map fun _ => .other scheme
  | .other _ => (checkOther scheme cs).map fun _ => .other scheme
  | scheme => (readWeb scheme cs).map .web

/-- Whether a character around a URL is no part of it. -/
def isOutside (c : Char) : Bool :=
  c.toNat ≤ 0x20

/-- What a text refers to. -/
def Reference.ofText (cs : List Char) : Except ParseError Reference :=
  let trimmed := ((cs.dropWhile isOutside).reverse.dropWhile isOutside).reverse
  let kept := trimmed.filter fun c => c != '\t' && c != '\n' && c != '\r'
  match readScheme? kept with
  | some (scheme, rest) => afterScheme scheme rest
  | none => .error .noScheme

end PushNotice.Url
