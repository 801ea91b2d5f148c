import ProxyCheck.Text.Hex
import ProxyCheck.Text.Utf8

/-!
The addresses that requests are made of: narrower than URLs, for nothing is put right in them. An
address is a path, an authority alone, or a scheme with an authority and a path.
-/
namespace ProxyCheck

inductive UriError where
  | empty
  | tooLong
  | schemeTooLong
  | invalidCharacter
  | invalidAuthority
  | invalidFormat
  deriving DecidableEq, Repr

def UriError.message : UriError → String
  | .empty => "empty string"
  | .tooLong => "uri too long"
  | .schemeTooLong => "scheme too long"
  | .invalidCharacter => "invalid uri character"
  | .invalidAuthority => "invalid authority"
  | .invalidFormat => "invalid format"

structure Uri where
  scheme : Option (List Char)
  authority : Option (List Char)
  path : List Char
  query : Option (List Char)
  deriving DecidableEq, Repr

namespace Uri

def lengthLimit : Nat := 65534

def schemeLimit : Nat := 64

def isSchemeChar (c : Char) : Bool :=
  c.isAlphanum || "+-.~".toList.contains c

def splitScheme (cs : List Char) : Except UriError (Option (List Char) × List Char) :=
  let scheme := cs.takeWhile isSchemeChar
  match cs.dropWhile isSchemeChar with
  | ':' :: '/' :: '/' :: rest =>
    if schemeLimit < scheme.length then .error .schemeTooLong else .ok (some scheme, rest)
  | _ => .ok (none, cs)

def endsAuthority (c : Char) : Bool :=
  c == '/' || c == '?' || c == '#'

def isNameChar (c : Char) : Bool :=
  c.isAlphanum || "!$&'()*+,-.;=_~".toList.contains c

/-- What an authority has shown so far. Colons and percent signs of a user or of an address in
brackets do not count. -/
structure Survey where
  colons : Nat := 0
  opened : Bool := false
  closed : Bool := false
  percent : Bool := false
  deriving DecidableEq, Repr

def colonLimit : Nat := 8

def surveyChar (s : Survey) (c : Char) : Except UriError Survey :=
  match c with
  | ':' =>
    if colonLimit ≤ s.colons then .error .invalidAuthority else .ok { s with colons := s.colons + 1 }
  | '[' =>
    if s.percent || s.opened then .error .invalidAuthority else .ok { s with opened := true }
  | ']' =>
    if !s.opened || s.closed then .error .invalidAuthority
    else .ok { s with closed := true, colons := 0, percent := false }
  | '@' => .ok { s with colons := 0, percent := false }
  | '%' => .ok { s with percent := true }
  | c => if isNameChar c then .ok s else .error .invalidCharacter

def splitAuthority (cs : List Char) : Except UriError (List Char × List Char) := do
  let authority := cs.takeWhile fun c => !endsAuthority c
  let s ← authority.foldlM surveyChar {}
  if s.opened != s.closed || 1 < s.colons || authority.getLast? = some '@' || s.percent then
    throw .invalidAuthority
  return (authority, cs.dropWhile fun c => !endsAuthority c)

def isPathChar (c : Char) : Bool :=
  let n := c.toNat
  n == 0x21 || (0x24 ≤ n && n ≤ 0x3B) || n == 0x3D || (0x40 ≤ n && n ≤ 0x5F) ||
    (0x61 ≤ n && n ≤ 0x7A) || "\"\x7B|\x7D~".toList.contains c

def isQueryChar (c : Char) : Bool :=
  let n := c.toNat
  n == 0x21 || (0x24 ≤ n && n ≤ 0x3B) || n == 0x3D || (0x3F ≤ n && n ≤ 0x7E)

/-- A path that is empty is a slash. What follows a `#` is dropped unseen. -/
def readPath (scheme authority : Option (List Char)) (cs : List Char) : Except UriError Uri :=
  let shown := cs.takeWhile (· ≠ '#')
  let path := shown.takeWhile (· ≠ '?')
  let query := match shown.dropWhile (· ≠ '?') with
    | _ :: query => some query
    | [] => none
  if path.all isPathChar && query.all (·.all isQueryChar) then
    .ok ⟨scheme, authority, if path.isEmpty then ['/'] else path, query⟩
  else .error .invalidCharacter

def ofAuthority (authority rest : List Char) : Except UriError Uri :=
  if rest.isEmpty then .ok ⟨none, some authority, [], none⟩ else .error .invalidFormat

def ofChars (cs : List Char) : Except UriError Uri :=
  match cs with
  | [] => .error .empty
  | ['*'] => .ok ⟨none, none, ['*'], none⟩
  | '/' :: _ => readPath none none cs
  | ['?'] | ['#'] => .error .invalidCharacter
  | cs => do
    let (scheme, rest) ← splitScheme cs
    let (authority, rest) ← splitAuthority rest
    match scheme with
    | none => ofAuthority authority rest
    | some scheme =>
      if authority.isEmpty then throw .invalidFormat
      else readPath (some scheme) (some authority) rest

def parse (text : String) : Except UriError Uri :=
  if lengthLimit < text.utf8ByteSize then .error .tooLong else ofChars text.toList

def placeOf (authority : List Char) : List Char :=
  (authority.reverse.takeWhile (· ≠ '@')).reverse

def hostOf (authority : List Char) : List Char :=
  match placeOf authority with
  | '[' :: rest => '[' :: rest.takeWhile (· ≠ ']') ++ [']']
  | place => place.takeWhile (· ≠ ':')

def portOf (authority : List Char) : List Char :=
  (placeOf authority).drop (hostOf authority).length

def host? (u : Uri) : Option (List Char) :=
  u.authority.map hostOf

end Uri

end ProxyCheck
