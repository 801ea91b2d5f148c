import ProxyCheck.Journal.Logger
import ProxyCheck.Probe.Outcome

/-!
A probe: one request at most, and one outcome always. What a probe takes note of is part of its
result; whether the notes are kept is another matter.
-/
namespace ProxyCheck

abbrev Client := Request → Except ProbeError Response

structure Occasion where
  session : String
  checkedAt : String
  /-- Milliseconds from start to end. -/
  elapsed : UInt64
  /-- What the clock shows when each note is taken. -/
  clocks : Nat → Clock

structure ProbeRun where
  outcome : Outcome
  /-- What the client was asked for. -/
  requests : List Request
  notes : List Note
  deriving DecidableEq, Repr

namespace Probe

def correlation (session : String) : String :=
  "probe_" ++ session

def detail (options : Options) (proxy : Option String) (o : Occasion) : Detail :=
  { target := maskAddress options.target, proxy, checkedAt := o.checkedAt, millis := o.elapsed }

def outcomeName (outcome : Outcome) : String :=
  if outcome.isReachable then "reachable" else "unavailable"

def startNotes (options : Options) (session : String) (request : Request) : List Note :=
  [.probeStart request.target (maskPassword request.proxy) options.timeout.millis
    (correlation session)]

def failureNotes (outcome : Outcome) : List Note :=
  outcome.error?.toList.map fun error => .error "ProxyProbe" "probe_failed" error.message

def endNote (o : Occasion) (outcome : Outcome) : Note :=
  .probeEnd (outcomeName outcome) outcome.detail.status outcome.detail.errorKind
    outcome.detail.millis (correlation o.session)

def finish (o : Occasion) (requests : List Request) (start : List Note) (outcome : Outcome) :
    ProbeRun :=
  ⟨outcome, requests, start ++ failureNotes outcome ++ [endNote o outcome]⟩

def send (options : Options) (client : Client) (o : Occasion) (request : Request) : ProbeRun :=
  let proxy := maskPassword request.proxy
  let outcome := match client request with
    | .ok response => .ofResponse response (detail options (some proxy) o)
    | .error error => .ofError error (detail options (some proxy) o)
  finish o [request] (startNotes options o.session request) outcome

def run (options : Options) (client : Client) (o : Occasion) : ProbeRun :=
  match Request.ofOptions options with
  | .ok request => send options client o request
  | .error cause => finish o [] [] (.ofError (.address cause) (detail options none o))

end Probe

/-- Runs a probe and keeps its notes if the user has asked for a log. -/
def Machine.probe (m : Machine) (options : Options) (client : Client) (o : Occasion) :
    ProbeRun × Machine :=
  let (logger, m) := m.openLogger o.session
  let result := Probe.run options client o
  (result, { m with home := logger.noteAll o.clocks m.home result.notes })

end ProxyCheck
