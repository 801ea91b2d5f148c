import ProxyCheck.Json.Record
import ProxyCheck.Json.Writer

/-!
Entries of the log: JSON records, one on a line.
-/
namespace ProxyCheck

structure LogEntry where
  timestamp : String
  level : String
  component : String
  event : String
  message : String
  correlation : Option String
  fields : NameMap Json
  deriving Repr

namespace LogEntry

def slots : List Slot :=
  [⟨"timestamp", .text, false⟩,
    ⟨"level", .text, false⟩,
    ⟨"component", .text, false⟩,
    ⟨"event", .text, false⟩,
    ⟨"message", .text, false⟩,
    ⟨"correlation_id", .optional .text, false⟩,
    ⟨"fields", .map, false⟩]

/-- The fields of an entry may stand in any order. -/
def members (e : LogEntry) (fields : NamedPairs Json) : NamedPairs Json :=
  [("timestamp", .string e.timestamp),
    ("level", .string e.level),
    ("component", .string e.component),
    ("event", .string e.event),
    ("message", .string e.message),
    ("correlation_id", Json.optional .string e.correlation),
    ("fields", .object fields)]

def json (e : LogEntry) : Json :=
  .object (e.members e.fields.pairs)

def ofValues : List Json → Option LogEntry
  | [.string timestamp, .string level, .string component, .string event, .string message,
      correlation, .object fields] =>
    some ⟨timestamp, level, component, event, message, correlation.text?, NameMap.ofPairs fields⟩
  | _ => none

def read (text : String) : Except JsonFault LogEntry := do
  let values ← (JsonReader.record slots).whole? text
  match ofValues values with
  | some e => return e
  | none => throw .mismatched

def line (e : LogEntry) : String :=
  e.json.text

end LogEntry

end ProxyCheck
