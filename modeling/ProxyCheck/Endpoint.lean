import ProxyCheck.Url.Parser

/-!
Where a proxy is, and what is to be fetched through it. Addresses are read as URLs; a bare
`host:port` is an HTTP proxy. For display, passwords are replaced.
-/
namespace ProxyCheck

inductive AddressError where
  | empty
  | invalidProxy (address : String) (cause : UrlError)
  | unsupportedProxyScheme (scheme : String)
  | missingHost (address : String)
  | invalidTarget (address : String) (cause : UrlError)
  | unsupportedTargetScheme (scheme : String)
  deriving DecidableEq, Repr

def quoted (text : String) : String :=
  "\x60" ++ text ++ "\x60"

def AddressError.message : AddressError → String
  | .empty => "proxy address is empty"
  | .invalidProxy address cause =>
    "invalid proxy address " ++ quoted address ++ ": " ++ cause.message
  | .unsupportedProxyScheme scheme => "unsupported proxy scheme " ++ quoted scheme
  | .missingHost address => "proxy address " ++ quoted address ++ " has no host"
  | .invalidTarget address cause => "invalid target URL " ++ quoted address ++ ": " ++ cause.message
  | .unsupportedTargetScheme scheme =>
    "unsupported target scheme " ++ quoted scheme ++ " (expected http or https)"

def mask : List Char :=
  "***".toList

def splitAtAuthority : List Char → Option (List Char × List Char)
  | [] => none
  | c :: rest =>
    match c, rest with
    | ':', '/' :: '/' :: rest => some ("://".toList, rest)
    | c, rest => (splitAtAuthority rest).map fun (before, after) => (c :: before, after)

def hasAuthority (cs : List Char) : Bool :=
  (splitAtAuthority cs).isSome

def maskUserinfo (cs : List Char) : List Char :=
  if cs.contains ':' then cs.takeWhile (· ≠ ':') ++ ':' :: mask else mask

def maskAuthority (cs : List Char) : List Char :=
  let authority := cs.takeWhile (· ≠ '/')
  match Url.splitLastAt authority with
  | none => cs
  | some (userinfo, place) => maskUserinfo userinfo ++ '@' :: place ++ cs.dropWhile (· ≠ '/')

def maskAddressChars (cs : List Char) : List Char :=
  match splitAtAuthority cs with
  | some (before, rest) => before ++ maskAuthority rest
  | none => maskAuthority cs

/-- Masks the password of an address that need not be a URL; a user name alone may be a secret and
is masked too. -/
def maskAddress (address : String) : String :=
  String.ofList (maskAddressChars address.toList)

/-- Masks the password of a URL and leaves out slashes at the end. A text without a password is
shown as it is, and so is one whose password cannot be set. -/
def maskPassword (address : String) : String :=
  match Url.parse address with
  | .ok u =>
    if u.password.isSome then
      match u.setPassword? mask with
      | some masked => String.ofList (dropTrailing (· == '/') masked.text.toList)
      | none => address
    else address
  | .error _ => address

def proxySchemes : List String :=
  ["http", "https", "socks4", "socks4a", "socks5", "socks5h"]

def socksPort : UInt16 := 1080

structure Endpoint where
  scheme : String
  username : String
  password : Option String
  host : String
  port : UInt16
  deriving DecidableEq, Repr

namespace Endpoint

/-- A password beside an empty user name is left out. -/
def ofUrl (u : Url) (host : String) : Endpoint :=
  { scheme := u.scheme
    username := u.username
    password := if u.username.isEmpty then none else u.password
    host
    port := u.portOrDefault?.getD socksPort }

def text (e : Endpoint) : String :=
  e.scheme ++ "://" ++ Url.credentials e.username e.password ++ e.host ++ ":" ++
    toString e.port.toNat

def candidate (address : List Char) : List Char :=
  if hasAuthority address then address else "http://".toList ++ address

def ofAddress (address : String) : Except AddressError Endpoint :=
  let trimmed := trimBoth isBlank address.toList
  if trimmed.isEmpty then .error .empty
  else
    let shown := String.ofList (maskAddressChars trimmed)
    match Url.ofChars (candidate trimmed) with
    | .error cause => .error (.invalidProxy shown cause)
    | .ok u =>
      if !proxySchemes.contains u.scheme then .error (.unsupportedProxyScheme u.scheme)
      else
        match u.hostText? with
        | none => .error (.missingHost shown)
        | some host => .ok (ofUrl u host)

end Endpoint

def normalizeProxy (address : String) : Except AddressError String :=
  (Endpoint.ofAddress address).map Endpoint.text

def targetSchemes : List String :=
  ["http", "https"]

def parseTarget (address : String) : Except AddressError Url :=
  match Url.parse (trimBlank address) with
  | .error cause => .error (.invalidTarget (maskAddress address) cause)
  | .ok u =>
    if targetSchemes.contains u.scheme then .ok u else .error (.unsupportedTargetScheme u.scheme)

structure ProxyPair where
  http : String
  https : String
  deriving DecidableEq, Repr

def ProxyPair.ofAddress (address : String) : Except AddressError ProxyPair :=
  (normalizeProxy address).map fun proxy => ⟨proxy, proxy⟩

def ProxyPair.forTarget (pair : ProxyPair) (target : Url) : String :=
  if target.scheme = "https" then pair.https else pair.http

end ProxyCheck
