import ProxyCheck.Probe.Outcome

/-!
Outcomes for people to read: a line for everybody, and a report for those who ask.
-/
namespace ProxyCheck.Outcome

def summary : Outcome → String
  | .reachable body _ _ => "proxy OK, returned value: " ++ body
  | .unavailable error _ => "proxy unavailable: " ++ error.message

def circumstances (d : Detail) : List String :=
  ["target:  " ++ d.target,
    "proxy:   " ++ d.proxy.getD "-",
    "checked: " ++ d.checkedAt,
    "elapsed: " ++ toString d.millis.toNat ++ "ms"]

def statusLine (status : UInt16) : String :=
  "status:  " ++ toString status.toNat

def headerLine (header : String × String) : String :=
  "  " ++ header.1 ++ ": " ++ header.2

def findings : Outcome → List String
  | .reachable body headers d =>
    d.status.toList.map statusLine ++
      ("body:    " ++ toString body.utf8ByteSize ++ " bytes") :: headers.pairs.map headerLine
  | .unavailable error _ => ["error:   " ++ error.kind]

def reportLines (o : Outcome) : List String :=
  circumstances o.detail ++ o.findings

def report (o : Outcome) : String :=
  "\n".intercalate o.reportLines

end ProxyCheck.Outcome
