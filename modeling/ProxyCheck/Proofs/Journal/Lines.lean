import ProxyCheck.Proofs.Journal.Calls
import ProxyCheck.Proofs.Journal.Entry
import ProxyCheck.Proofs.Json.OneLine

/-! What calls of loggers add to a log is one line for each call, from which what the call was given is
read back. -/
namespace ProxyCheck

theorem toList_toUTF8 (text : String) :
    text.toUTF8.data.toList = text.toList.flatMap String.utf8EncodeChar := by
  have same : text.toUTF8 = text.toList.utf8Encode := by
    rw [String.utf8Encode_toList]
    rfl
  rw [same]
  exact List.toList_data_toByteArray

theorem newline_not_mem_toUTF8 (line : String) (one : '\n' ∉ line.toList) :
    10 ∉ line.toUTF8.data.toList := by
  intro member
  rw [toList_toUTF8, List.mem_flatMap] at member
  obtain ⟨c, inside, byte⟩ := member
  have same := toNat_of_mem_utf8EncodeChar c 10 byte (by decide)
  have newline : c = '\n' := Char.toNat_inj.mp same
  exact one (newline ▸ inside)

theorem toList_textOf (lines : List String) :
    (textOf lines).data.toList =
      [10].intercalate ((lines.map fun line => line.toUTF8.data.toList) ++ [[]]) := by
  induction lines with
  | nil => rfl
  | cons line rest ih =>
      have split : textOf (line :: rest) = lineBytes line ++ textOf rest := rfl
      have ended : "\n".toUTF8.data.toList = [10] := by decide
      rw [split, lineBytes_ended, ByteArray.data_append, ByteArray.data_append, Array.toList_append,
        Array.toList_append, ih, ended]
      cases rest <;> simp [List.intercalate]

theorem splitOn_textOf (lines : List String) (one : ∀ line ∈ lines, '\n' ∉ line.toList) :
    (textOf lines).data.toList.splitOn 10 =
      (lines.map fun line => line.toUTF8.data.toList) ++ [[]] := by
  rw [toList_textOf]
  refine List.splitOn_intercalate 10 (fun bytes member => ?_) (by simp)
  rcases List.mem_append.mp member with inside | last
  · obtain ⟨line, present, rfl⟩ := List.mem_map.mp inside
    exact newline_not_mem_toUTF8 line (one line present)
  · rw [List.mem_singleton.mp last]
    exact List.not_mem_nil

theorem newline_not_mem_text (j : Json) : '\n' ∉ j.text.toList := by
  rw [Json.text, String.toList_ofList]
  exact j.newline_not_mem_chars

theorem text_object_ne_empty (ms : NamedPairs Json) : (Json.object ms).text ≠ "" := by
  intro empty
  have chars : (Json.object ms).chars = [] := by
    rw [← String.toList_ofList (l := (Json.object ms).chars)]
    exact congrArg String.toList empty
  rw [Json.chars] at chars
  exact List.cons_ne_nil _ _ chars

structure LogEntry.IsLine (line : String) (e : LogEntry) : Prop where
  nonempty : line ≠ ""
  one : '\n' ∉ line.toList
  read : LogEntry.read line = .ok e

/-- Split at line breaks, the bytes are lines from which the entries are read, in order. -/
def LogEntry.ReadFrom (bytes : ByteArray) (entries : List LogEntry) : Prop :=
  ∃ lines : List String,
    bytes.data.toList.splitOn 10 = (lines.map fun line => line.toUTF8.data.toList) ++ [[]] ∧
      List.Forall₂ LogEntry.IsLine lines entries

theorem Call.isLine_members (c : Call) (fields : NamedPairs Json)
    (perm : fields.Perm c.entry.fields.pairs) :
    LogEntry.IsLine (Json.object (c.entry.members fields)).text c.entry :=
  ⟨text_object_ne_empty _, newline_not_mem_text _,
    c.entry.read_members fields perm c.note.scalar_fields⟩

theorem Call.readFrom_textOf (calls : List Call) :
    LogEntry.ReadFrom (textOf (calls.map fun c => c.entry.line)) (calls.map Call.entry) := by
  have isLine (c : Call) : LogEntry.IsLine c.entry.line c.entry :=
    c.isLine_members c.entry.fields.pairs (List.Perm.refl _)
  refine ⟨calls.map fun c => c.entry.line, splitOn_textOf _ fun line member => ?_, ?_⟩
  · obtain ⟨c, -, rfl⟩ := List.mem_map.mp member
    exact (isLine c).one
  · rw [List.forall₂_map_left_iff, List.forall₂_map_right_iff, List.forall₂_same]
    exact fun c _ => isLine c

/-- The entry that a call is to leave: what it was given, and of texts that may hold secrets what may
be shown. A call that names no correlation has that of its logger. -/
inductive Call.Leaves : Call → LogEntry → Prop where
  | debug (l : Logger) (clock : Clock) (component event message : String) :
      Leaves ⟨l, clock, .debug component event message⟩
        ⟨clock.timestamp, "DEBUG", component, event, redact message, some l.session, {}⟩
  | error (l : Logger) (clock : Clock) (component event message : String) :
      Leaves ⟨l, clock, .error component event message⟩
        ⟨clock.timestamp, "ERROR", component, event, redact message, some l.session, {}⟩
  | start (l : Logger) (clock : Clock) (target proxy : String) (timeout : UInt64)
      (correlation : String) (fields : NameMap Json)
      (given : ∀ name, fields.get? name =
        if name = "target_url" then some (.string target)
        else if name = "proxy_url" then some (.string (redact proxy))
        else if name = "timeout_ms" then some (Json.natural timeout.toNat)
        else none) :
      Leaves ⟨l, clock, .probeStart target proxy timeout correlation⟩
        ⟨clock.timestamp, "PROBE", "ProxyProbe", "probe_start",
          redact ("GET " ++ target ++ " via " ++ proxy), some correlation, fields⟩
  | finish (l : Logger) (clock : Clock) (outcome : String) (status : Option UInt16)
      (errorKind : Option String) (millis : UInt64) (correlation : String) (fields : NameMap Json)
      (given : ∀ name, fields.get? name =
        if name = "outcome" then some (.string outcome)
        else if name = "duration_ms" then some (Json.natural millis.toNat)
        else if name = "status_code" then status.map fun status => Json.natural status.toNat
        else if name = "error_kind" then errorKind.map Json.string
        else none) :
      Leaves ⟨l, clock, .probeEnd outcome status errorKind millis correlation⟩
        ⟨clock.timestamp, "PROBE", "ProxyProbe", "probe_end",
          redact ("Probe finished: " ++ outcome ++ " (" ++ toString millis.toNat ++ "ms)"),
          some correlation, fields⟩

theorem Call.leaves_entry (c : Call) : c.Leaves c.entry := by
  obtain ⟨l, clock, note⟩ := c
  cases note with
  | debug component event message => exact .debug l clock component event message
  | error component event message => exact .error l clock component event message
  | probeStart target proxy timeout correlation =>
      exact .start l clock target proxy timeout correlation _
        (Note.get?_fields_probeStart target proxy timeout correlation)
  | probeEnd outcome status errorKind millis correlation =>
      exact .finish l clock outcome status errorKind millis correlation _
        (Note.get?_fields_probeEnd outcome status errorKind millis correlation)

/-- What calls of loggers append to a log that is not rotated is a line for each of them, from which
the entry is read that the call is to leave. It would be, too, if the fields of the entry stood in
another order. -/
theorem take_lines (d : Directory) (calls : List Call) (writable : d.Writable)
    (enabled : ∀ c ∈ calls, c.logger.enabled) (unrotated : d.Unrotated (calls.map Call.written)) :
    ∃ (after : Directory) (appended : ByteArray) (entries : List LogEntry),
      LogHome.take (.directory d) calls = .directory after ∧
        after.logContent = d.logContent ++ appended ∧
        LogEntry.ReadFrom appended entries ∧
        List.Forall₂ Call.Leaves calls entries ∧
        ∀ e ∈ entries, ∀ fields, fields.Perm e.fields.pairs →
          LogEntry.IsLine (Json.object (e.members fields)).text e := by
  refine ⟨_, _, calls.map Call.entry, LogHome.take_directory d calls enabled,
    d.logContent_take calls writable unrotated, Call.readFrom_textOf calls, ?_, ?_⟩
  · rw [List.forall₂_map_right_iff, List.forall₂_same]
    exact fun c _ => c.leaves_entry
  · intro e member fields perm
    obtain ⟨c, -, rfl⟩ := List.mem_map.mp member
    exact c.isLine_members fields perm

def awkwardCalls : List Call :=
  let clock : Clock := ⟨7, "stamp", "noon"⟩
  [⟨⟨true, "0a1b2c3d"⟩, clock, .debug "Run\ner" "a\"b" "two\nlines\r\n\u2028 password: \"p\\q\""⟩,
    ⟨⟨true, "4e5f6071"⟩, clock, .probeStart "http://t/\n" "u:s@p" 18446744073709551615 "c\u0001"⟩,
    ⟨⟨true, "0a1b2c3d"⟩, clock, .error "" "" ""⟩,
    ⟨⟨true, "4e5f6071"⟩, clock, .probeEnd "\t" (some 65535) (some "\u007f\\") 0 "c\u0001"⟩]

theorem take_lines_awkward :
    Directory.Writable {} ∧ (∀ c ∈ awkwardCalls, c.logger.enabled) ∧
      Directory.Unrotated {} (awkwardCalls.map Call.written) ∧
      ∃ (after : Directory) (appended : ByteArray) (first second third fourth : LogEntry),
        LogHome.take (.directory {}) awkwardCalls = .directory after ∧
          after.logContent = Directory.logContent {} ++ appended ∧
          LogEntry.ReadFrom appended [first, second, third, fourth] ∧
          first.message = "two\nlines\r\n\u2028 [REDACTED]" ∧ first.correlation = some "0a1b2c3d" ∧
          second.fields.get? "timeout_ms" = some (Json.natural 18446744073709551615) ∧
          third.level = "ERROR" ∧
          fourth.fields.get? "status_code" = some (Json.natural 65535) ∧
          fourth.fields.get? "error_kind" = some (.string "\u007f\\") := by
  have writable : Directory.Writable {} := ⟨Directory.unused_empty.coherent, .inl rfl⟩
  have enabled : ∀ c ∈ awkwardCalls, c.logger.enabled := by decide
  have unrotated := Directory.unrotated_of_short {} awkwardCalls writable (by decide +kernel)
  refine ⟨writable, enabled, unrotated, ?_⟩
  obtain ⟨after, appended, entries, taken, grown, read, leaves, -⟩ :=
    take_lines {} awkwardCalls writable enabled unrotated
  obtain ⟨first, _, debug, three, rfl⟩ := List.forall₂_cons_left_iff.mp leaves
  obtain ⟨second, _, start, two, rfl⟩ := List.forall₂_cons_left_iff.mp three
  obtain ⟨third, _, error, one, rfl⟩ := List.forall₂_cons_left_iff.mp two
  obtain ⟨fourth, _, finish, none, rfl⟩ := List.forall₂_cons_left_iff.mp one
  obtain rfl := List.forall₂_nil_left_iff.mp none
  refine ⟨after, appended, first, second, third, fourth, taken, grown, read, ?_⟩
  cases debug
  cases error
  obtain _ | _ | ⟨_, _, _, _, _, _, started, timeout⟩ := start
  obtain _ | _ | _ | ⟨_, _, _, _, _, _, _, finished, given⟩ := finish
  exact ⟨by decide +kernel, rfl, timeout _, rfl, given _, given _⟩

end ProxyCheck
