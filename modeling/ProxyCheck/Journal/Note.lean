import ProxyCheck.Journal.Entry
import ProxyCheck.Redaction

/-!
What the log takes note of, and the entries that are made of it.
-/
namespace ProxyCheck

inductive Note where
  | debug (component event message : String)
  | error (component event message : String)
  | probeStart (target proxy : String) (timeout : UInt64) (correlation : String)
  | probeEnd (outcome : String) (status : Option UInt16) (errorKind : Option String)
      (millis : UInt64) (correlation : String)
  deriving DecidableEq, Repr

namespace Note

def level : Note → String
  | .debug .. => "DEBUG"
  | .error .. => "ERROR"
  | .probeStart .. | .probeEnd .. => "PROBE"

def component : Note → String
  | .debug component .. | .error component .. => component
  | .probeStart .. | .probeEnd .. => "ProxyProbe"

def event : Note → String
  | .debug _ event _ | .error _ event _ => event
  | .probeStart .. => "probe_start"
  | .probeEnd .. => "probe_end"

/-- The message as it was given, secrets included. -/
def message : Note → String
  | .debug _ _ message | .error _ _ message => message
  | .probeStart target proxy .. => "GET " ++ target ++ " via " ++ proxy
  | .probeEnd outcome _ _ millis _ =>
    "Probe finished: " ++ outcome ++ " (" ++ toString millis.toNat ++ "ms)"

def correlation? : Note → Option String
  | .debug .. | .error .. => none
  | .probeStart _ _ _ correlation | .probeEnd _ _ _ _ correlation => some correlation

def fields : Note → NameMap Json
  | .debug .. | .error .. => {}
  | .probeStart target proxy timeout _ =>
    .ofPairs
      [("target_url", .string target),
        ("proxy_url", .string (redact proxy)),
        ("timeout_ms", Json.natural timeout.toNat)]
  | .probeEnd outcome status errorKind millis _ =>
    .ofPairs
      ([("outcome", .string outcome), ("duration_ms", Json.natural millis.toNat)] ++
        (status.map fun status => ("status_code", Json.natural status.toNat)).toList ++
        (errorKind.map fun kind => ("error_kind", Json.string kind)).toList)

/-- A note that belongs to no probe belongs to the session. -/
def entry (n : Note) (session timestamp : String) : LogEntry :=
  { timestamp
    level := n.level
    component := n.component
    event := n.event
    message := redact n.message
    correlation := some (n.correlation?.getD session)
    fields := n.fields }

end Note

end ProxyCheck
