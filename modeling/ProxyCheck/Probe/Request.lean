import ProxyCheck.Duration
import ProxyCheck.Probe.Error

/-!
What a probe is asked to do, and the request that it makes of it.
-/
namespace ProxyCheck

structure Options where
  proxy : String := "127.0.0.1:2334"
  target : String := "https://api.ipify.org"
  timeout : Duration := .ofMillis 5000
  deriving DecidableEq, Repr

structure Request where
  target : String
  proxy : String
  timeout : Duration
  deriving DecidableEq, Repr

/-- The target is checked before the proxy. -/
def Request.ofOptions (options : Options) : Except AddressError Request := do
  let target ← parseTarget options.target
  let proxies ← ProxyPair.ofAddress options.proxy
  return ⟨target.text, proxies.forTarget target, options.timeout⟩

end ProxyCheck
