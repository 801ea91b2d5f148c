import ProxyCheck.CommandLine.Message
import ProxyCheck.CommandLine.Parser
import ProxyCheck.Probe.Report
import ProxyCheck.Probe.Run

/-!
The program as a whole: a command line, a probe, and what is written where. Whatever comes of the
probe, the program succeeds.
-/
namespace ProxyCheck

structure Output where
  stdout : String := ""
  stderr : String := ""
  exitCode : Nat := 0
  deriving DecidableEq, Repr

namespace Program

/-- The report, for those who ask for it, stays off the standard output. -/
def display (verbose : Bool) (outcome : Outcome) : Output :=
  { stdout := outcome.summary ++ "\n"
    stderr := if verbose then outcome.report ++ "\n" else "" }

def refuse (program : String) (refusal : Refusal) : Output :=
  let message := refusal.message (CommandLine.calledName program)
  if refusal.exitCode = 0 then { stdout := message }
  else { stderr := message, exitCode := refusal.exitCode }

def run (m : Machine) (program : String) (arguments : List String) (client : Client)
    (o : Occasion) : Output × Machine :=
  match CommandLine.parse arguments with
  | .error refusal => (refuse program refusal, m)
  | .ok invocation =>
    let (result, m) := m.probe invocation.options client o
    (display invocation.verbose result.outcome, m)

end Program

end ProxyCheck
