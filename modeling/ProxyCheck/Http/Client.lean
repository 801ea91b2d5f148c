import ProxyCheck.Http.Fields
import ProxyCheck.Http.Uri
import ProxyCheck.Probe.Run
import ProxyCheck.Url.Ipv4
import ProxyCheck.Url.Ipv6

/-!
The client of the real world. It checks the addresses of a request and leaves the rest to a network.
-/
namespace ProxyCheck.Http

inductive Trouble where
  | invalidRequest
  | nameResolution
  | connection
  | timeout
  | tlsEngine
  | serverCertificate
  | clientCertificate
  | setup
  | protocol
  | other
  deriving DecidableEq, Repr, Inhabited

def Trouble.text : Trouble → String
  | .invalidRequest => "invalid HTTP request"
  | .nameResolution => "failed to resolve host name"
  | .connection => "failed to connect to the server"
  | .timeout => "request or operation took longer than the configured timeout time"
  | .tlsEngine => "error ocurred in the secure socket engine"
  | .serverCertificate => "the server certificate could not be validated"
  | .clientCertificate => "a problem occurred with the local certificate"
  | .setup => "failed to initialize client"
  | .protocol => "the server made an unrecoverable HTTP protocol violation"
  | .other => "unknown error"

inductive Failure where
  | exchange (trouble : Trouble) (context : Option String := none)
  /-- A response has begun, and its body cannot be read to its end. -/
  | body (late : Bool) (message : String)
  deriving DecidableEq, Repr, Inhabited

namespace Failure

def text : Failure → String
  | .exchange trouble none => trouble.text
  | .exchange trouble (some context) => trouble.text ++ ": " ++ context
  | .body _ message => message

def probeError (limit : UInt64) (f : Failure) : ProbeError :=
  match f with
  | .exchange .timeout _ | .body true _ => .timeout limit f.text
  | .exchange .connection _ => .connect f.text
  | .exchange .nameResolution _ => .nameResolution f.text
  | .exchange .tlsEngine _ | .exchange .serverCertificate _ | .exchange .clientCertificate _ =>
    .tls f.text
  | .exchange .setup _ => .clientSetup f.text
  | .exchange .invalidRequest _ | .exchange .protocol _ | .exchange .other _ => .request f.text
  | .body false _ => .body f.text

end Failure

structure Reply where
  status : UInt16
  fields : List Field
  body : List UInt8
  duration : Duration

abbrev Network := (proxy target : Uri) → (timeout : Duration) → Except Failure Reply

/-- Characters that a URI may have in a host, and a host never has. -/
def isUnusable (c : Char) : Bool :=
  "!$&'()*+,;=".toList.contains c

def isUsableHost (host : List Char) : Bool :=
  match host with
  | [] => false
  | '[' :: rest => (Ipv6.ofText? rest.dropLast).isSome
  | host => !host.any isUnusable

def isUsablePort (cs : List Char) : Bool :=
  match cs with
  | [] => true
  | c :: digits => c == ':' && digits.all Char.isDigit && digitsValue 10 digits ≤ 65535

def schemeIn (known : List String) (u : Uri) : Bool :=
  u.scheme.all fun scheme => known.contains (String.ofList (scheme.map Char.toLower))

def isUsable (target : Uri) : Bool :=
  schemeIn targetSchemes target &&
    target.authority.any fun authority =>
      isUsableHost (Uri.hostOf authority) && isUsablePort (Uri.portOf authority)

def send (network : Network) (proxy target : Uri) (timeout : Duration) : Except Failure Reply :=
  if !isUsable target then .error (.exchange .invalidRequest)
  else if !schemeIn proxySchemes proxy then .error (.exchange .connection)
  else network proxy target timeout

def parseUri (complaint text : String) : Except ProbeError Uri :=
  (Uri.parse text).mapError fun e => .request (complaint ++ ": " ++ e.message)

/-- The proxy is checked before the target. -/
def addresses (request : Request) : Except ProbeError (Uri × Uri) := do
  let proxy ← parseUri "proxy URI rejected" request.proxy
  let target ← parseUri "request creation failed" request.target
  return (proxy, target)

def fetch (network : Network) : Client := fun request => do
  let (proxy, target) ← addresses request
  match send network proxy target request.timeout with
  | .ok reply => return ⟨reply.status, reply.body, reply.duration, collect reply.fields⟩
  | .error failure => throw (failure.probeError request.timeout.millis)

def isAddress (host : List Char) : Bool :=
  host.head? = some '[' || (Ipv4.ofName? host).isSome || host = "localhost".toList

def silent : Network := fun proxy _ _ =>
  if proxy.host?.any isAddress then .error (.exchange .connection)
  else .error (.exchange .nameResolution)

end ProxyCheck.Http
