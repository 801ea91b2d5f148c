import ProxyCheck.Json.Record
import ProxyCheck.Json.Writer
import ProxyCheck.Probe.Outcome

/-!
The circumstances of a probe as a JSON record.
-/
namespace ProxyCheck.Detail

def slots : List Slot :=
  [⟨"target_url", .text, false⟩,
    ⟨"proxy_url", .optional .text, false⟩,
    ⟨"checked_at", .text, false⟩,
    ⟨"response_time_ms", .natural (UInt64.size - 1), false⟩,
    ⟨"status_code", .optional (.natural (UInt16.size - 1)), true⟩,
    ⟨"error_kind", .optional .text, true⟩]

/-- A proxy that is missing is written as null; a status or an error that is missing is not
written. -/
def json (d : Detail) : Json :=
  .object
    ([("target_url", .string d.target),
      ("proxy_url", Json.optional .string d.proxy),
      ("checked_at", .string d.checkedAt),
      ("response_time_ms", Json.natural d.millis.toNat)] ++
      (d.status.map fun status => ("status_code", Json.natural status.toNat)).toList ++
      (d.errorKind.map fun kind => ("error_kind", Json.string kind)).toList)

def ofValues : List Json → Option Detail
  | [.string target, proxy, .string checkedAt, .number (.whole millis), status, errorKind] =>
    some
      { target
        proxy := proxy.text?
        checkedAt
        millis := UInt64.ofNat millis.toNat
        status := status.whole?.map fun n => UInt16.ofNat n.toNat
        errorKind := errorKind.text? }
  | _ => none

def read (text : String) : Except JsonFault Detail := do
  let values ← (JsonReader.record slots).whole? text
  match ofValues values with
  | some d => return d
  | none => throw .mismatched

end ProxyCheck.Detail
