import ProxyCheck.Http.Client

/-!
Where a request to a proxy is sent, and whether the proxy is asked for the target itself.
-/
namespace ProxyCheck.Http

structure Route where
  host : String
  port : UInt16
  /-- Neither side of the proxy needs more than a plain connection. -/
  plain : Bool
  deriving DecidableEq, Repr

def usualPort (proxy : Uri) : UInt16 :=
  if schemeIn (proxySchemes.erase "https") proxy then 1080 else 443

def portOf (proxy : Uri) : UInt16 :=
  match proxy.authority.map Uri.portOf with
  | some (_ :: d :: digits) => UInt16.ofNat (digitsValue 10 (d :: digits))
  | _ => usualPort proxy

def withoutBrackets (host : List Char) : List Char :=
  match host with
  | '[' :: rest => rest.dropLast
  | host => host

def Route.ofAddresses (proxy target : Uri) : Route :=
  { host := String.ofList (withoutBrackets (proxy.host?.getD []))
    port := portOf proxy
    plain := schemeIn ["http"] proxy && schemeIn ["http"] target }

/-- Names of hidden services are known to nobody who could be asked. -/
def Route.isHidden (r : Route) : Bool :=
  ".onion".toList.isSuffixOf (r.host.toList.map Char.toLower)

end ProxyCheck.Http
