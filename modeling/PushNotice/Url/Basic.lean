import PushNotice.Url.Host

/-!
# PushNotice.Url.Basic

**URLs of the web.** A URL has a scheme and a host; its other parts are kept in the encoded form
in which they are written.
-/

namespace PushNotice

/-! ### Schemes -/

/-- What a URL is for. The schemes of the web have rules of their own for the rest of a URL. -/
inductive Url.Scheme where
  | http
  | https
  | ws
  | wss
  | ftp
  | file
  | other (name : List Char)
deriving DecidableEq, Repr

namespace Url.Scheme

/-- The scheme with a name in lower case. -/
def ofName (name : List Char) : Scheme :=
  match String.ofList name with
  | "http" => .http
  | "https" => .https
  | "ws" => .ws
  | "wss" => .wss
  | "ftp" => .ftp
  | "file" => .file
  | _ => .other name

def name : Scheme → List Char
  | .http => "http".toList
  | .https => "https".toList
  | .ws => "ws".toList
  | .wss => "wss".toList
  | .ftp => "ftp".toList
  | .file => "file".toList
  | .other name => name

/-- The port that need not be written. -/
def defaultPort? : Scheme → Option Nat
  | .http | .ws => some 80
  | .https | .wss => some 443
  | .ftp => some 21
  | .file | .other _ => none

/-- Whether the scheme is one of the web. -/
def isSpecial : Scheme → Bool
  | .other _ => false
  | _ => true

/-- Whether a URL with the scheme always has a host. -/
def needsHost : Scheme → Bool
  | .file | .other _ => false
  | _ => true

end Url.Scheme

/-! ### URLs -/

/-- Whom a URL addresses: credentials, a host and a port unless it is the usual one. -/
structure Url.Authority where
  /-- The name and, after a colon, the password of a user. -/
  credentials : List Char
  host : Host
  port : Option Nat
deriving DecidableEq, Repr

/-- A URL with a host. -/
structure Url where
  scheme : Url.Scheme
  authority : Url.Authority
  /-- The parts of the path, each of which follows a slash. -/
  segments : List (List Char)
  query : Option (List Char)
  fragment : Option (List Char)
deriving DecidableEq, Repr

namespace Url

def Authority.text (authority : Authority) : List Char :=
  (if authority.credentials.isEmpty then [] else authority.credentials ++ ['@']) ++
    authority.host.text ++
    match authority.port with
    | some port => ':' :: Nat.toDigits 10 port
    | none => []

/-- A part of a URL that follows a mark, if it is there. -/
def markedText (mark : Char) : Option (List Char) → List Char
  | some cs => mark :: cs
  | none => []

/-- The path as it is written. -/
def pathText (url : Url) : List Char :=
  url.segments.flatMap ('/' :: ·)

/-- The URL as it is written. -/
def text (url : Url) : List Char :=
  url.scheme.name ++ ':' :: '/' :: '/' :: url.authority.text ++ url.pathText ++
    markedText '?' url.query ++ markedText '#' url.fragment

/-- The host as it is written. -/
def hostText (url : Url) : List Char :=
  url.authority.host.text

/-- The pairs of the query. -/
def queryPairs (url : Url) : List Pair :=
  readPairs (url.query.getD [])

/-- The URL with a query of the given pairs. -/
def withPairs (url : Url) (pairs : List Pair) : Url :=
  { url with query := some (writePairs pairs) }

end Url

end PushNotice
