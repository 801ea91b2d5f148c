import ProxyCheck.Journal.Logger
import ProxyCheck.Proofs.Journal.Growth

/-! Calls of loggers, and what they add to the log. -/
namespace ProxyCheck

structure Call where
  logger : Logger
  clock : Clock
  note : Note

namespace Call

def entry (c : Call) : LogEntry :=
  c.note.entry c.logger.session c.clock.timestamp

def written (c : Call) : Clock × String :=
  (c.clock, c.entry.line)

end Call

namespace LogHome

def take (home : LogHome) (calls : List Call) : LogHome :=
  calls.foldl (fun home c => c.logger.note c.clock home c.note) home

theorem take_directory (d : Directory) (calls : List Call)
    (enabled : ∀ c ∈ calls, c.logger.enabled) :
    take (.directory d) calls = .directory (d.appendAll (calls.map Call.written)) := by
  induction calls generalizing d with
  | nil => rfl
  | cons c rest ih =>
      have kept : c.logger.note c.clock (.directory d) c.note =
          .directory (d.append c.clock c.entry.line) := by
        rw [Logger.note, if_pos (enabled c List.mem_cons_self)]
        rfl
      rw [take, List.foldl_cons, kept]
      exact ih _ fun other member => enabled other (List.mem_cons_of_mem c member)

end LogHome

theorem size_lineBytes_entry (e : LogEntry) :
    (lineBytes e.line).size = (e.json.chars.map Char.utf8Size).sum + 1 := by
  have ended : "\n".toByteArray.size = 1 := by decide
  rw [LogEntry.line, Json.text, lineBytes, String.toUTF8, String.toByteArray_append,
    ByteArray.size_append, ended]
  simp [List.utf8Encode]

theorem Directory.unrotated_of_short (d : Directory) (calls : List Call) (writable : d.Writable)
    (short : d.logContent.size +
      (calls.map fun c => (c.entry.json.chars.map Char.utf8Size).sum + 1).sum ≤ logLimit) :
    d.Unrotated (calls.map Call.written) := by
  refine d.unrotated_of_small _ writable ?_
  rw [size_textOf, List.map_map, List.map_map]
  simpa only [Function.comp_def, Call.written, size_lineBytes_entry] using short

theorem Directory.logContent_take (d : Directory) (calls : List Call) (writable : d.Writable)
    (unrotated : d.Unrotated (calls.map Call.written)) :
    (d.appendAll (calls.map Call.written)).logContent =
      d.logContent ++ textOf (calls.map fun c => c.entry.line) := by
  rw [(d.appendAll_of_unrotated _ writable unrotated).2, List.map_map]
  rfl

end ProxyCheck
