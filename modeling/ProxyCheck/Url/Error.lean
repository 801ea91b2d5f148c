/-!
Why a text is no URL.
-/
namespace ProxyCheck

inductive UrlError where
  | emptyHost
  | invalidDomainName
  | invalidPort
  | invalidIpv4
  | invalidIpv6
  | invalidHostCharacter
  | relativeWithoutBase
  | relativeToOpaqueBase
  | hostOnOpaque
  | tooLong
  deriving DecidableEq, Repr

def UrlError.message : UrlError → String
  | .emptyHost => "empty host"
  | .invalidDomainName => "invalid international domain name"
  | .invalidPort => "invalid port number"
  | .invalidIpv4 => "invalid IPv4 address"
  | .invalidIpv6 => "invalid IPv6 address"
  | .invalidHostCharacter => "invalid domain character"
  | .relativeWithoutBase => "relative URL without a base"
  | .relativeToOpaqueBase => "relative URL with a cannot-be-a-base base"
  | .hostOnOpaque => "a cannot-be-a-base URL doesn\u2019t have a host to set"
  | .tooLong => "URLs more than 4 GB are not supported"

end ProxyCheck
