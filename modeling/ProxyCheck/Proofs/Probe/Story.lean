import ProxyCheck.Proofs.Journal.Lines
import ProxyCheck.Proofs.Probe.Secrecy

/-! Probes one after the other: what the client was asked, what came of it and what the log says tell
the same story. -/
namespace ProxyCheck

structure Trial where
  options : Options
  client : Client
  occasion : Occasion

namespace Trial

def result (t : Trial) : ProbeRun :=
  Probe.run t.options t.client t.occasion

def calls (t : Trial) : List Call :=
  t.result.notes.zipIdx.map fun (note, i) =>
    ⟨⟨true, t.occasion.session⟩, t.occasion.clocks i, note⟩

def entries (t : Trial) : List LogEntry :=
  t.calls.map Call.entry

end Trial

namespace Machine

def probeAll (m : Machine) : List Trial → List ProbeRun × Machine
  | [] => ([], m)
  | t :: rest =>
    let (result, m) := m.probe t.options t.client t.occasion
    let (results, m) := m.probeAll rest
    (result :: results, m)

theorem fst_probeAll (m : Machine) (trials : List Trial) :
    (m.probeAll trials).1 = trials.map Trial.result := by
  induction trials generalizing m with
  | nil => rfl
  | cons t rest ih =>
      rw [probeAll]
      simp only
      rw [ih, m.probe_fst]
      rfl

theorem snd_probe (m : Machine) (t : Trial) (asked : asksForLog m.switch) :
    (m.probe t.options t.client t.occasion).2 = { m with home := m.home.prepare.take t.calls } := by
  rw [probe, openLogger]
  simp only [asked, if_true, LogHome.take, Logger.noteAll, Trial.calls, List.foldl_map]
  rfl

theorem snd_probeAll (m : Machine) (d : Directory) (trials : List Trial)
    (asked : asksForLog m.switch) (home : m.home.prepare = .directory d) :
    (m.probeAll trials).2.home.prepare =
      .directory (d.appendAll ((trials.flatMap Trial.calls).map Call.written)) := by
  have enabled (t : Trial) : ∀ c ∈ t.calls, c.logger.enabled := by
    intro c member
    obtain ⟨pair, -, rfl⟩ := List.mem_map.mp member
    rfl
  induction trials generalizing m d with
  | nil => exact home
  | cons t rest ih =>
      have next := m.snd_probe t asked
      rw [home, LogHome.take_directory d t.calls (enabled t)] at next
      rw [probeAll]
      simp only
      rw [next, List.flatMap_cons, List.map_append, Directory.appendAll_append]
      exact ih ⟨m.switch, .directory (d.appendAll (t.calls.map Call.written))⟩ _ asked rfl

end Machine

structure Ends (last : LogEntry) (o : Outcome) : Prop where
  event : last.event = "probe_end"
  outcome : last.fields.get? "outcome" =
    some (.string (if o.isReachable then "reachable" else "unavailable"))
  millis : last.fields.get? "duration_ms" = some (Json.natural o.detail.millis.toNat)
  status : last.fields.get? "status_code" =
    o.detail.status.map fun status => Json.natural status.toNat
  errorKind : last.fields.get? "error_kind" = o.detail.errorKind.map Json.string

/-- The request, the answer, the outcome and the entries of one probe. -/
structure Story (t : Trial) (run : ProbeRun) (block : List LogEntry) : Prop where
  called : ∀ request, run.requests = [request] ↔ Request.ofOptions t.options = .ok request
  uncalled : run.requests = [] ↔ ∃ cause, Request.ofOptions t.options = .error cause
  reachable : run.outcome.isReachable ↔
    ∃ request response, Request.ofOptions t.options = .ok request ∧ t.client request = .ok response
  unavailable : ∀ error, run.outcome.error? = some error ↔
    (∃ cause, Request.ofOptions t.options = .error cause ∧ error = .address cause) ∨
      ∃ request, Request.ofOptions t.options = .ok request ∧ t.client request = .error error
  exclusive : run.outcome.isReachable ↔ run.outcome.error? = none
  proxy : run.outcome.detail.proxy.isSome ↔ run.requests ≠ []
  status : ∀ status, run.outcome.detail.status = some status ↔
    ∃ request response, Request.ofOptions t.options = .ok request ∧
      t.client request = .ok response ∧ response.status = status
  errorKind : run.outcome.detail.errorKind = run.outcome.error?.map ProbeError.kind
  events : block.map LogEntry.event =
    (if run.requests = [] then [] else ["probe_start"]) ++
      (if run.outcome.isReachable then [] else ["probe_failed"]) ++ ["probe_end"]
  ends : ∃ front last, block = front ++ [last] ∧ Ends last run.outcome ∧
    ∀ entry ∈ front, entry.event = "probe_start" → entry.correlation = last.correlation

theorem ends_endNote (o : Occasion) (outcome : Outcome) (timestamp : String) :
    Ends ((Probe.endNote o outcome).entry o.session timestamp) outcome := by
  have fields := Note.get?_fields_probeEnd (Probe.outcomeName outcome) outcome.detail.status
    outcome.detail.errorKind outcome.detail.millis (Probe.correlation o.session)
  constructor
  case event => rfl
  case outcome => exact (fields "outcome").trans (if_pos rfl)
  case millis => exact (fields "duration_ms").trans (by simp)
  case status => exact (fields "status_code").trans (by simp)
  case errorKind => exact (fields "error_kind").trans (by simp)

theorem entries_of_notes (t : Trial) (front : List Note) (last : Note)
    (notes : t.result.notes = front ++ [last]) :
    ∃ earlier timestamp, t.entries = earlier ++ [last.entry t.occasion.session timestamp] ∧
      ∀ entry ∈ earlier, ∃ note ∈ front, ∃ timestamp,
        entry = note.entry t.occasion.session timestamp := by
  refine ⟨front.zipIdx.map fun (note, i) =>
    note.entry t.occasion.session (t.occasion.clocks i).timestamp,
    (t.occasion.clocks front.length).timestamp, ?_, fun entry member => ?_⟩
  · rw [Trial.entries, Trial.calls, notes, List.zipIdx_append, List.map_append, List.map_append,
      List.map_map]
    simp [Call.entry]
  · obtain ⟨⟨note, i⟩, noted, rfl⟩ := List.mem_map.mp member
    exact ⟨note, List.fst_mem_of_mem_zipIdx noted, _, rfl⟩

theorem events_of_notes (t : Trial) :
    t.entries.map LogEntry.event = t.result.notes.map Note.event := by
  rw [Trial.entries, Trial.calls, List.map_map, List.map_map]
  calc t.result.notes.zipIdx.map (fun pair => pair.1.event)
      = (t.result.notes.zipIdx.map Prod.fst).map Note.event := by rw [List.map_map]; rfl
    _ = t.result.notes.map Note.event := by rw [List.zipIdx_map_fst]

theorem story_of_finish (t : Trial) (requests : List Request) (start : List Note)
    (outcome : Outcome) (finished : t.result = Probe.finish t.occasion requests start outcome)
    (starts : ∀ note ∈ start, note.event = "probe_start" ∧
      note.correlation? = some (Probe.correlation t.occasion.session)) :
    t.entries.map LogEntry.event = start.map Note.event ++
        (if outcome.isReachable then [] else ["probe_failed"]) ++ ["probe_end"] ∧
      ∃ front last, t.entries = front ++ [last] ∧ Ends last outcome ∧
        ∀ entry ∈ front, entry.event = "probe_start" → entry.correlation = last.correlation := by
  have notes : t.result.notes = (start ++ Probe.failureNotes outcome) ++
      [Probe.endNote t.occasion outcome] := by
    rw [finished]
    rfl
  constructor
  · rw [events_of_notes, notes, List.map_append, List.map_append, Probe.failureNotes]
    cases outcome <;> rfl
  · obtain ⟨earlier, timestamp, entries, noted⟩ := entries_of_notes t _ _ notes
    refine ⟨earlier, _, entries, ends_endNote t.occasion outcome timestamp,
      fun entry early event => ?_⟩
    obtain ⟨note, member, stamp, rfl⟩ := noted entry early
    rcases List.mem_append.mp member with first | failed
    · rw [Note.entry, (starts note first).2]
      rfl
    · obtain ⟨error, -, rfl⟩ := List.mem_map.mp failed
      simp [Note.entry, Note.event] at event

theorem story_of_error (t : Trial) (cause : AddressError)
    (built : Request.ofOptions t.options = .error cause) : Story t t.result t.entries := by
  have result := Probe.run_of_error t.options t.client t.occasion cause built
  have told := story_of_finish t [] [] _ result nofun
  rw [Trial.result, result, Probe.finish]
  constructor
  case called => simp [built]
  case uncalled => simp [built]
  case reachable => simp [built, Outcome.ofError, Outcome.isReachable]
  case unavailable => simp [built, Outcome.ofError, Outcome.error?, eq_comm]
  case exclusive => simp [Outcome.ofError, Outcome.isReachable, Outcome.error?]
  case proxy => simp [Outcome.ofError, Outcome.detail, Probe.detail]
  case status => simp [built, Outcome.ofError, Outcome.detail, Probe.detail]
  case errorKind => rfl
  case events => exact told.1
  case ends => exact told.2

theorem story_of_ok (t : Trial) (request : Request)
    (built : Request.ofOptions t.options = .ok request) : Story t t.result t.entries := by
  have starts : ∀ note ∈ Probe.startNotes t.options t.occasion.session request,
      note.event = "probe_start" ∧
        note.correlation? = some (Probe.correlation t.occasion.session) := by
    intro note member
    rw [List.mem_singleton.mp member]
    exact ⟨rfl, rfl⟩
  have result := Probe.run_of_ok t.options t.client t.occasion request built
  rw [Probe.send] at result
  cases answer : t.client request with
  | ok response =>
      rw [answer] at result
      have told := story_of_finish t [request] _ _ result starts
      rw [Trial.result, result, Probe.finish]
      constructor
      case called => simp [built]
      case uncalled => simp [built]
      case reachable => simp [built, answer, Outcome.ofResponse, Outcome.isReachable]
      case unavailable => simp [built, answer, Outcome.ofResponse, Outcome.error?]
      case exclusive => simp [Outcome.ofResponse, Outcome.isReachable, Outcome.error?]
      case proxy => simp [Outcome.ofResponse, Outcome.detail, Probe.detail]
      case status => simp [built, answer, Outcome.ofResponse, Outcome.detail]
      case errorKind => rfl
      case events => exact told.1
      case ends => exact told.2
  | error error =>
      rw [answer] at result
      have told := story_of_finish t [request] _ _ result starts
      rw [Trial.result, result, Probe.finish]
      constructor
      case called => simp [built]
      case uncalled => simp [built]
      case reachable => simp [built, answer, Outcome.ofError, Outcome.isReachable]
      case unavailable => simp [built, answer, Outcome.ofError, Outcome.error?, eq_comm]
      case exclusive => simp [Outcome.ofError, Outcome.isReachable, Outcome.error?]
      case proxy => simp [Outcome.ofError, Outcome.detail, Probe.detail]
      case status => simp [built, answer, Outcome.ofError, Outcome.detail, Probe.detail]
      case errorKind => rfl
      case events => exact told.1
      case ends => exact told.2

theorem story (t : Trial) : Story t t.result t.entries := by
  cases built : Request.ofOptions t.options with
  | error cause => exact story_of_error t cause built
  | ok request => exact story_of_ok t request built

section

variable {t : Trial} {run : ProbeRun} {block : List LogEntry}

theorem Story.events_of_ok (story : Story t run block) (request : Request) (response : Response)
    (built : Request.ofOptions t.options = .ok request) (answer : t.client request = .ok response) :
    block.map LogEntry.event = ["probe_start", "probe_end"] := by
  have called := (story.called request).mpr built
  have reachable := story.reachable.mpr ⟨request, response, built, answer⟩
  rw [story.events, called, if_neg (List.cons_ne_nil _ _), if_pos reachable]
  rfl

theorem Story.events_of_error (story : Story t run block) (request : Request) (error : ProbeError)
    (built : Request.ofOptions t.options = .ok request) (answer : t.client request = .error error) :
    block.map LogEntry.event = ["probe_start", "probe_failed", "probe_end"] := by
  have called := (story.called request).mpr built
  have failed := (story.unavailable error).mpr (.inr ⟨request, built, answer⟩)
  have unreachable : ¬run.outcome.isReachable := by
    rw [story.exclusive, failed]
    exact nofun
  rw [story.events, called, if_neg (List.cons_ne_nil _ _), if_neg unreachable]
  rfl

theorem Story.events_of_refusal (story : Story t run block) (cause : AddressError)
    (built : Request.ofOptions t.options = .error cause) :
    block.map LogEntry.event = ["probe_failed", "probe_end"] := by
  have uncalled := story.uncalled.mpr ⟨cause, built⟩
  have failed := (story.unavailable (.address cause)).mpr (.inl ⟨cause, built, rfl⟩)
  have unreachable : ¬run.outcome.isReachable := by
    rw [story.exclusive, failed]
    exact nofun
  rw [story.events, if_pos uncalled, if_neg unreachable]
  rfl

end

/-- Every probe of a run tells its story, and the lines that the run adds to the log are read as the
stories in order. -/
theorem probeAll_tells (m : Machine) (d : Directory) (trials : List Trial)
    (asked : asksForLog m.switch) (home : m.home.prepare = .directory d) (writable : d.Writable)
    (unrotated : d.Unrotated ((trials.flatMap Trial.calls).map Call.written)) :
    ∃ (told : List (ProbeRun × List LogEntry)) (after : Directory) (appended : ByteArray),
      List.Forall₂ (fun t p => Story t p.1 p.2) trials told ∧
        (m.probeAll trials).1 = told.map Prod.fst ∧
        (m.probeAll trials).2.home.prepare = .directory after ∧
        after.logContent = d.logContent ++ appended ∧
        LogEntry.ReadFrom appended (told.flatMap Prod.snd) := by
  have entries : (trials.map fun t => (t.result, t.entries)).flatMap Prod.snd =
      (trials.flatMap Trial.calls).map Call.entry := by
    simp only [List.flatMap_map, List.map_flatMap, Trial.entries]
  refine ⟨trials.map fun t => (t.result, t.entries), _, _, ?_, ?_,
    m.snd_probeAll d trials asked home, d.logContent_take _ writable unrotated, ?_⟩
  · rw [List.forall₂_map_right_iff, List.forall₂_same]
    intro t member
    simp only
    exact story t
  · rw [m.fst_probeAll, List.map_map]
    simp only [Function.comp_def]
  · rw [entries]
    exact Call.readFrom_textOf _

def answered : Client := fun _ =>
  .ok ⟨200, [111, 107, 10], .ofMillis 42, .ofPairs []⟩

def mixedTrials : List Trial :=
  [⟨{ proxy := "u:s@p", target := "http://t" }, answered, namedOccasion⟩,
    ⟨{ proxy := "u:s@p", target := "http://t" }, refused, namedOccasion⟩,
    ⟨{ proxy := "" }, answered, namedOccasion⟩]

theorem probeAll_tells_mixed :
    asksForLog (some "1") ∧ LogHome.missing.prepare = .directory {} ∧ Directory.Writable {} ∧
      Directory.Unrotated {} ((mixedTrials.flatMap Trial.calls).map Call.written) ∧
      ∃ (after : Directory) (appended : ByteArray) (first second third : List LogEntry),
        (Machine.probeAll ⟨some "1", .missing⟩ mixedTrials).2.home.prepare = .directory after ∧
          after.logContent = Directory.logContent {} ++ appended ∧
          LogEntry.ReadFrom appended (first ++ (second ++ third)) ∧
          first.map LogEntry.event = ["probe_start", "probe_end"] ∧
          second.map LogEntry.event = ["probe_start", "probe_failed", "probe_end"] ∧
          third.map LogEntry.event = ["probe_failed", "probe_end"] ∧
          ∃ e ∈ first, e.fields.get? "status_code" = some (Json.natural 200) := by
  have asked : asksForLog (some "1") := by decide
  have writable : Directory.Writable {} := ⟨Directory.unused_empty.coherent, .inl rfl⟩
  have unrotated := Directory.unrotated_of_short {} (mixedTrials.flatMap Trial.calls) writable
    (by decide +kernel)
  refine ⟨asked, rfl, writable, unrotated, ?_⟩
  obtain ⟨told, after, appended, stories, -, kept, grown, read⟩ :=
    probeAll_tells ⟨some "1", .missing⟩ {} mixedTrials asked rfl writable unrotated
  obtain ⟨⟨run, first⟩, _, one, others, rfl⟩ := List.forall₂_cons_left_iff.mp stories
  obtain ⟨⟨run', second⟩, _, two, last, rfl⟩ := List.forall₂_cons_left_iff.mp others
  obtain ⟨⟨run'', third⟩, _, three, none, rfl⟩ := List.forall₂_cons_left_iff.mp last
  obtain rfl := List.forall₂_nil_left_iff.mp none
  have built : Request.ofOptions { proxy := "u:s@p", target := "http://t" } =
      .ok ⟨"http://t/", "http://u:s@p:80", .ofMillis 5000⟩ :=
    eq_ok_of_toOption _ _ (by decide +kernel)
  have unbuilt : Request.ofOptions { proxy := "" } = .error .empty := rfl
  refine ⟨after, appended, first, second, third, kept, grown, ?_, one.events_of_ok _ _ built rfl,
    two.events_of_error _ _ built rfl, three.events_of_refusal _ unbuilt, ?_⟩
  · rw [List.flatMap_cons, List.flatMap_cons, List.flatMap_cons, List.flatMap_nil,
      List.append_nil] at read
    exact read
  · obtain ⟨front, last, block, ends, -⟩ := one.ends
    have whole : first = front ++ [last] := block
    refine ⟨last, whole ▸ List.mem_append_right front List.mem_cons_self, ?_⟩
    have status := (one.status 200).mpr ⟨_, _, built, rfl, rfl⟩
    rw [ends.status, status]
    rfl

end ProxyCheck
