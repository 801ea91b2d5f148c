import ProxyCheck.NameMap
import ProxyCheck.Probe.Request

/-!
What came of a probe. A failure of any kind is an outcome like any other.
-/
namespace ProxyCheck

structure Response where
  status : UInt16
  body : List UInt8
  duration : Duration
  headers : NameMap String
  deriving DecidableEq, Repr

structure Detail where
  target : String
  /-- Absent if the probe did not get as far as a request. -/
  proxy : Option String
  checkedAt : String
  millis : UInt64
  status : Option UInt16 := none
  errorKind : Option String := none
  deriving DecidableEq, Repr

inductive Outcome where
  | reachable (body : String) (headers : NameMap String) (detail : Detail)
  | unavailable (error : ProbeError) (detail : Detail)
  deriving DecidableEq, Repr

def isLineBreak (c : Char) : Bool :=
  c == '\r' || c == '\n'

/-- A body as text, without the line breaks at its end. -/
def bodyText (body : List UInt8) : String :=
  String.ofList (dropTrailing isLineBreak (Utf8.decodeLossy body))

namespace Outcome

def isReachable : Outcome → Bool
  | .reachable .. => true
  | .unavailable .. => false

def detail : Outcome → Detail
  | .reachable _ _ d => d
  | .unavailable _ d => d

def body? : Outcome → Option String
  | .reachable body _ _ => some body
  | .unavailable .. => none

def error? : Outcome → Option ProbeError
  | .reachable .. => none
  | .unavailable error _ => some error

/-- The time that counts is the response's own. -/
def ofResponse (r : Response) (detail : Detail) : Outcome :=
  .reachable (bodyText r.body) r.headers
    { detail with millis := r.duration.millis, status := some r.status }

def ofError (error : ProbeError) (detail : Detail) : Outcome :=
  .unavailable error { detail with errorKind := some error.kind }

end Outcome

end ProxyCheck
