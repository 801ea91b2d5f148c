import ProxyCheck.Endpoint

/-!
Why a probe got no answer.
-/
namespace ProxyCheck

inductive ProbeError where
  | address (cause : AddressError)
  /-- The limit is in milliseconds. -/
  | timeout (limit : UInt64) (message : String)
  | connect (message : String)
  | nameResolution (message : String)
  | tls (message : String)
  | body (message : String)
  | clientSetup (message : String)
  | request (message : String)
  deriving DecidableEq, Repr

namespace ProbeError

def kind : ProbeError → String
  | .address _ => "invalid_address"
  | .timeout .. => "timeout"
  | .connect _ => "connect"
  | .nameResolution _ => "name_resolution"
  | .tls _ => "tls"
  | .body _ => "body"
  | .clientSetup _ => "client_init"
  | .request _ => "request"

def message : ProbeError → String
  | .address cause => cause.message
  | .timeout limit m => "request timed out after " ++ toString limit.toNat ++ "ms: " ++ m
  | .connect m => "could not connect: " ++ m
  | .nameResolution m => "name resolution failed: " ++ m
  | .tls m => "TLS failure: " ++ m
  | .body m => "failed to read response body: " ++ m
  | .clientSetup m => "HTTP client initialization failed: " ++ m
  | .request m => "request failed: " ++ m

def isTimeout : ProbeError → Bool
  | .timeout .. => true
  | _ => false

theorem isTimeout_iff_kind (e : ProbeError) : e.isTimeout ↔ e.kind = "timeout" := by
  cases e <;> simp [isTimeout, kind]

end ProbeError

end ProxyCheck
