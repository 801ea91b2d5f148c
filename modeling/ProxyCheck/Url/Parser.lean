import ProxyCheck.Text.Blank
import ProxyCheck.Url.Basic

/-!
Reading URLs. The text is cleaned, split at its scheme, and read by the rules of that scheme:
authority, path, query and fragment.
-/
namespace ProxyCheck.Url

/-- Blanks and controls at both ends, and tabs and line ends anywhere, are no part of a URL. -/
def clean (text : List Char) : List Char :=
  (trimBoth (fun c => c.toNat ≤ 0x20) text).filter fun c => c ≠ '\t' && c ≠ '\n' && c ≠ '\r'

def isSchemeChar (c : Char) : Bool :=
  c.isAlphanum || c == '+' || c == '-' || c == '.'

def splitScheme (cs : List Char) : Option (String × List Char) :=
  if cs.head?.any Char.isAlpha then
    match cs.dropWhile isSchemeChar with
    | ':' :: rest => some (String.ofList ((cs.takeWhile isSchemeChar).map Char.toLower), rest)
    | _ => none
  else none

def isSlash (special : Bool) (c : Char) : Bool :=
  c == '/' || (special && c == '\\')

def endsPath (c : Char) : Bool :=
  c == '?' || c == '#'

def endsAuthority (special : Bool) (c : Char) : Bool :=
  isSlash special c || endsPath c

def splitLastAt : List Char → Option (List Char × List Char)
  | [] => none
  | c :: rest =>
    match splitLastAt rest with
    | some (before, after) => some (c :: before, after)
    | none => if c = '@' then some ([], rest) else none

def encodeUserinfo (cs : List Char) : String :=
  String.ofList (Percent.encode Percent.userinfo cs)

/-- User name and password. An empty password is none. -/
def readUserinfo (cs : List Char) : String × Option String :=
  let username := encodeUserinfo (cs.takeWhile (· ≠ ':'))
  match cs.dropWhile (· ≠ ':') with
  | _ :: c :: password => (username, some (encodeUserinfo (c :: password)))
  | _ => (username, none)

/-- A URL with another password, which is encoded; an empty one is none. Without a host there is no
place for a password, nor is there one in a file. -/
def setPassword? (u : Url) (password : List Char) : Option Url :=
  if u.hostText?.isNone || u.scheme == "file" then none
  else
    some { u with password := if password.isEmpty then none else some (encodeUserinfo password) }

def splitHost : (bracketed : Bool) → List Char → List Char × List Char
  | _, [] => ([], [])
  | bracketed, c :: rest =>
    if c = ':' ∧ !bracketed then ([], c :: rest)
    else
      let inside := if c = '[' then true else if c = ']' then false else bracketed
      let (host, rest) := splitHost inside rest
      (c :: host, rest)

def readPort (scheme : String) (cs : List Char) : Except UrlError (Option UInt16 × List Char) :=
  let digits := cs.takeWhile Char.isDigit
  let rest := cs.dropWhile Char.isDigit
  let number := digitsValue 10 digits
  if 65535 < number ∨ !rest.head?.all (endsAuthority true) then .error .invalidPort
  else
    let port := if digits.isEmpty then none else some (UInt16.ofNat number)
    .ok (if port = defaultPort? scheme then none else port, rest)

def readOptionalPort (scheme : String) (cs : List Char) :
    Except UrlError (Option UInt16 × List Char) :=
  match cs with
  | ':' :: rest => readPort scheme rest
  | rest => .ok (none, rest)

def readHost (special : Bool) (cs : List Char) : Except UrlError Host :=
  if special then if cs.isEmpty then .error .emptyHost else Host.ofSpecial cs
  else Host.ofOpaque cs

structure Authority where
  username : String
  password : Option String
  host : Host
  port : Option UInt16
  deriving DecidableEq, Repr

/-- Reads user name, password, host and port; `cs` goes on to the end of the URL. An empty host has
nothing beside it. -/
def readAuthority (scheme : String) (special : Bool) (cs : List Char) :
    Except UrlError (Authority × List Char) := do
  let authority := cs.takeWhile fun c => !endsAuthority special c
  let tail := cs.dropWhile fun c => !endsAuthority special c
  let split := splitLastAt authority
  if split = some ([], []) ∧ tail ≠ [] then
    throw .emptyHost
  let (userinfo, place) := split.getD ([], authority)
  let (username, password) := readUserinfo userinfo
  let (name, rest) := splitHost false place
  let host ← readHost special name
  if name = [] ∧ rest ≠ [] then
    throw .emptyHost
  let (port, rest) ← readOptionalPort scheme (rest ++ tail)
  if name = [] ∧ ¬(username = "" ∧ password = none) then
    throw .emptyHost
  return (⟨username, password, host, port⟩, rest)

def splitSegments (special : Bool) : List Char → List (List Char)
  | [] => [[]]
  | c :: rest =>
    if isSlash special c then [] :: splitSegments special rest
    else
      match splitSegments special rest with
      | [] => [[c]]
      | segment :: others => (c :: segment) :: others

/-- A dot may be written in percent-encoding. -/
def dots : List Char → Option Nat
  | [] => some 0
  | '.' :: rest => (dots rest).map (· + 1)
  | '%' :: '2' :: 'e' :: rest => (dots rest).map (· + 1)
  | '%' :: '2' :: 'E' :: rest => (dots rest).map (· + 1)
  | _ => none

def isDrive (segment : String) : Bool :=
  match segment.toList with
  | [a, b] => a.isAlpha && (b == ':' || b == '|')
  | a :: b :: c :: _ => a.isAlpha && (b == ':' || b == '|') && c == '\\'
  | _ => false

/-- Leaves the last segment, a drive apart. `done` is written backwards. -/
def leave : List String → List String
  | [] => []
  | segment :: done => if isDrive segment then segment :: done else done

def encodeSegment (segment : List Char) : String :=
  String.ofList (Percent.encode Percent.path segment)

/-- Walks along the segments: one dot stays, two dots go back. A path that ends in dots ends in an
empty segment. -/
def walk (done : List String) : List (List Char) → List String
  | [] => done.reverse
  | segment :: rest =>
    match dots segment with
    | some 1 => walk (if rest.isEmpty then "" :: done else done) rest
    | some 2 => walk (if rest.isEmpty then "" :: leave done else leave done) rest
    | _ => walk (encodeSegment segment :: done) rest

def readSegments (special : Bool) (cs : List Char) : Path :=
  .segments (walk [] (splitSegments special cs))

/-- The path after an authority. Only a web URL has one if none is written. -/
def readPath (special : Bool) (cs : List Char) : Path :=
  match cs with
  | c :: rest => readSegments special (if isSlash special c then rest else cs)
  | [] => if special then readSegments special [] else .segments []

def readBarePath (cs : List Char) : Path :=
  match cs with
  | '/' :: rest => readSegments false rest
  | cs => .opaqueText (String.ofList (Percent.encode Percent.control cs))

def readQuery (special : Bool) (cs : List Char) : Option String × List Char :=
  match cs with
  | '?' :: rest =>
    let set := if special then Percent.specialQuery else Percent.query
    (some (String.ofList (Percent.encode set (rest.takeWhile (· ≠ '#')))),
      rest.dropWhile (· ≠ '#'))
  | rest => (none, rest)

def readFragment (cs : List Char) : Option String :=
  match cs with
  | '#' :: rest => some (String.ofList (Percent.encode Percent.fragment rest))
  | _ => none

def finish (scheme : String) (special : Bool) (authority : Option Authority)
    (path : List Char → Path) (cs : List Char) : Url :=
  let (query, rest) := readQuery special (cs.dropWhile fun c => !endsPath c)
  { scheme
    username := authority.elim "" Authority.username
    password := authority.bind Authority.password
    host := authority.map Authority.host
    port := authority.bind Authority.port
    path := path (cs.takeWhile fun c => !endsPath c)
    query
    fragment := readFragment rest }

def readWithAuthority (scheme : String) (special : Bool) (cs : List Char) : Except UrlError Url := do
  let (authority, rest) ← readAuthority scheme special cs
  return finish scheme special (some authority) (readPath special) rest

/-- The host of a file, a drive letter being none. The machine itself needs no name. -/
def readFileHost (cs : List Char) : Except UrlError (Host × List Char) := do
  let name := cs.takeWhile fun c => !endsAuthority true c
  let rest := cs.dropWhile fun c => !endsAuthority true c
  if isDrive (String.ofList name) then
    return (.opaqueName "", cs)
  if name = [] then
    return (.opaqueName "", rest)
  let host ← Host.ofSpecial name
  return (if host = .domain "localhost" then .opaqueName "" else host, rest)

def readFile (cs : List Char) : Except UrlError Url := do
  let (host, rest) ← match cs with
    | a :: b :: rest =>
      if isSlash true a && isSlash true b then readFileHost rest else .ok (.opaqueName "", cs)
    | cs => .ok (.opaqueName "", cs)
  return finish "file" true (some ⟨"", none, host, none⟩) (readPath true) rest

def ofChars (text : List Char) : Except UrlError Url :=
  match splitScheme (clean text) with
  | none => .error .relativeWithoutBase
  | some (scheme, rest) =>
    match SchemeKind.of scheme with
    | .file => readFile rest
    | .special => readWithAuthority scheme true (rest.dropWhile (isSlash true))
    | .other =>
      match rest with
      | '/' :: '/' :: rest => readWithAuthority scheme false rest
      | rest => .ok (finish scheme false none readBarePath rest)

def parse (text : String) : Except UrlError Url :=
  ofChars text.toList

end ProxyCheck.Url
