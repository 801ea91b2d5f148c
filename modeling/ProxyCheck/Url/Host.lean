import ProxyCheck.Domain.Ascii
import ProxyCheck.Url.Error
import ProxyCheck.Url.Ipv4
import ProxyCheck.Url.Ipv6
import ProxyCheck.Url.Percent

/-!
The host of a URL. Where the scheme is one of the web's, a host is an address or a domain name in
ASCII; elsewhere it is kept as written.
-/
namespace ProxyCheck

inductive Host where
  | domain (name : String)
  | ipv4 (address : Ipv4)
  | ipv6 (address : Ipv6)
  /-- A host whose meaning only its scheme knows; it may be empty. -/
  | opaqueName (name : String)
  deriving DecidableEq, Repr

namespace Host

def text : Host → String
  | .domain name => name
  | .ipv4 a => a.text
  | .ipv6 a => "[" ++ a.text ++ "]"
  | .opaqueName name => name

def ofBracketed (cs : List Char) : Except UrlError Host :=
  if cs.getLast? = some ']' then
    match Ipv6.ofText? cs.dropLast with
    | some a => .ok (.ipv6 a)
    | none => .error .invalidIpv6
  else .error .invalidIpv6

def ofName (name : List Char) : Except UrlError Host :=
  if name.isEmpty then .error .emptyHost
  else if Ipv4.looksNumeric name then
    match Ipv4.ofName? name with
    | some a => .ok (.ipv4 a)
    | none => .error .invalidIpv4
  else .ok (.domain (String.ofList name))

def ofSpecial (cs : List Char) : Except UrlError Host :=
  match cs with
  | '[' :: rest => ofBracketed rest
  | cs =>
    match (Utf8.decode? (Percent.decode cs)).bind Domain.toAscii with
    | some name => ofName name
    | none => .error .invalidDomainName

def isForbidden (c : Char) : Bool :=
  "\x00\t\n\r #/:<>?@[\\]^|".toList.contains c

def ofOpaque (cs : List Char) : Except UrlError Host :=
  match cs with
  | '[' :: rest => ofBracketed rest
  | cs =>
    if cs.any isForbidden then .error .invalidHostCharacter
    else .ok (.opaqueName (String.ofList (Percent.encode Percent.control cs)))

end Host

end ProxyCheck
