import ProxyCheck.Proofs.Probe.Story

/-! A log is of no consequence for a probe, and where nobody asks for one, nothing is written. -/
namespace ProxyCheck

/-- What a probe does, step by step, until it comes to an outcome. -/
inductive Course where
  | note (n : Note) (next : Course)
  | fetch (request : Request) (next : Except ProbeError Response → Course)
  | finish (outcome : Outcome)

namespace Course

def noteAll (notes : List Note) (next : Course) : Course :=
  notes.foldr .note next

def conclude (o : Occasion) (outcome : Outcome) : Course :=
  noteAll (Probe.failureNotes outcome ++ [Probe.endNote o outcome]) (.finish outcome)

def ofAnswer (o : Occasion) (detail : Detail) : Except ProbeError Response → Course
  | .ok response => conclude o (.ofResponse response detail)
  | .error error => conclude o (.ofError error detail)

def ofRequest (options : Options) (o : Occasion) : Except AddressError Request → Course
  | .ok request =>
    noteAll (Probe.startNotes options o.session request)
      (.fetch request (ofAnswer o (Probe.detail options (some (maskPassword request.proxy)) o)))
  | .error cause => conclude o (.ofError (.address cause) (Probe.detail options none o))

def ofProbe (options : Options) (o : Occasion) : Course :=
  ofRequest options o (Request.ofOptions options)

end Course

structure Conclusion where
  outcome : Outcome
  requests : List Request

/-- Takes the steps of a course, and each note while the log's directory is as it then is; `taken` is
the number of notes so far. -/
def Logger.follow (l : Logger) (clocks : Nat → Clock) (client : Client) (taken : Nat)
    (home : LogHome) : Course → Conclusion × LogHome
  | .note n next => l.follow clocks client (taken + 1) (l.note (clocks taken) home n) next
  | .fetch request next =>
    let (conclusion, home) := l.follow clocks client taken home (next (client request))
    ({ conclusion with requests := request :: conclusion.requests }, home)
  | .finish outcome => (⟨outcome, []⟩, home)

namespace Logger

theorem snd_follow (l : Logger) (clocks : Nat → Clock) (client : Client) (c : Course) (taken : Nat)
    (home : LogHome) (disabled : l.enabled = false) :
    (l.follow clocks client taken home c).2 = home := by
  have left (clock : Clock) (n : Note) : l.note clock home n = home := by
    rw [note, disabled]
    exact if_neg Bool.false_ne_true
  induction c generalizing taken with
  | note n next ih =>
      rw [follow, left]
      exact ih (taken + 1)
  | fetch request next ih => exact ih (client request) taken
  | finish outcome => rfl

def noteFrom (l : Logger) (clocks : Nat → Clock) (taken : Nat) (home : LogHome)
    (notes : List Note) : LogHome :=
  (notes.zipIdx taken).foldl (fun home (n, i) => l.note (clocks i) home n) home

theorem noteAll_append (l : Logger) (clocks : Nat → Clock) (home : LogHome)
    (first rest : List Note) :
    l.noteAll clocks home (first ++ rest) =
      l.noteFrom clocks first.length (l.noteFrom clocks 0 home first) rest := by
  rw [noteAll, noteFrom, noteFrom, List.zipIdx_append, List.foldl_append, Nat.zero_add]

theorem follow_noteAll (l : Logger) (clocks : Nat → Clock) (client : Client) (notes : List Note)
    (next : Course) (taken : Nat) (home : LogHome) :
    l.follow clocks client taken home (.noteAll notes next) =
      l.follow clocks client (taken + notes.length) (l.noteFrom clocks taken home notes) next := by
  induction notes generalizing taken home with
  | nil => rfl
  | cons n notes ih =>
      have rest := ih (taken + 1) (l.note (clocks taken) home n)
      rw [Nat.add_assoc, Nat.add_comm 1] at rest
      exact rest

theorem follow_conclude (l : Logger) (o : Occasion) (client : Client) (outcome : Outcome)
    (taken : Nat) (home : LogHome) :
    l.follow o.clocks client taken home (.conclude o outcome) =
      (⟨outcome, []⟩, l.noteFrom o.clocks taken home
        (Probe.failureNotes outcome ++ [Probe.endNote o outcome])) := by
  rw [Course.conclude, follow_noteAll, follow]

end Logger

theorem Probe.run_follows (options : Options) (client : Client) (o : Occasion) (l : Logger)
    (home : LogHome) :
    l.follow o.clocks client 0 home (.ofProbe options o) =
      (⟨(run options client o).outcome, (run options client o).requests⟩,
        l.noteAll o.clocks home (run options client o).notes) := by
  cases built : Request.ofOptions options with
  | error cause =>
      rw [run_of_error options client o cause built, Course.ofProbe, built, Course.ofRequest,
        l.follow_conclude]
      rfl
  | ok request =>
      rw [run_of_ok options client o request built, Course.ofProbe, built, Course.ofRequest,
        l.follow_noteAll, Logger.follow, Nat.zero_add, send, finish, List.append_assoc,
        l.noteAll_append]
      cases client request with
      | ok response => rw [Course.ofAnswer, l.follow_conclude]
      | error error => rw [Course.ofAnswer, l.follow_conclude]

theorem Machine.probe_follows (m : Machine) (options : Options) (client : Client) (o : Occasion) :
    (m.openLogger o.session).1.follow o.clocks client 0 (m.openLogger o.session).2.home
        (.ofProbe options o) =
      (⟨(m.probe options client o).1.outcome, (m.probe options client o).1.requests⟩,
        (m.probe options client o).2.home) := by
  rw [Probe.run_follows]
  simp only [probe]

/-- An outcome without what the clock has to do with it: the time of day, and how long a failure has
taken. -/
def Outcome.timeless : Outcome → Outcome
  | .reachable body headers d => .reachable body headers { d with checkedAt := "" }
  | .unavailable error d => .unavailable error { d with checkedAt := "", millis := 0 }

/-- Two probes that ask the client for the same, and come to the same. -/
structure ProbeRun.Agrees (a b : ProbeRun) : Prop where
  requests : a.requests = b.requests
  outcome : a.outcome.timeless = b.outcome.timeless

theorem Probe.run_agrees (options : Options) (client : Client) (o p : Occasion) :
    (run options client o).Agrees (run options client p) := by
  cases built : Request.ofOptions options with
  | error cause =>
      rw [run_of_error options client o cause built, run_of_error options client p cause built]
      constructor
      case requests => rfl
      case outcome => rfl
  | ok request =>
      rw [run_of_ok options client o request built, run_of_ok options client p request built, send,
        send]
      constructor
      case requests => rfl
      case outcome =>
        cases client request with
        | ok response => rfl
        | error error => rfl

/-- What can happen on a machine: the user sets the variable that asks for a log, loggers are made
and called, and probes are made. -/
inductive Action where
  | setVariable (value : Option String)
  | openLogger (session : String)
  | note (logger : Nat) (clock : Clock) (note : Note)
  | probe (trial : Trial)

structure Session where
  machine : Machine
  loggers : List Logger := []

namespace Session

def setHome (s : Session) (home : LogHome) : Session :=
  { s with machine := { s.machine with home } }

def act (s : Session) : Action → Option ProbeRun × Session
  | .setVariable value => (none, { s with machine := { s.machine with switch := value } })
  | .openLogger session =>
    let (logger, machine) := s.machine.openLogger session
    (none, ⟨machine, s.loggers ++ [logger]⟩)
  | .note i clock n =>
    (none, (s.loggers[i]?).elim s fun logger => s.setHome (logger.note clock s.machine.home n))
  | .probe t =>
    let (result, machine) := s.machine.probe t.options t.client t.occasion
    (some result, { s with machine })

def run (s : Session) : List Action → List ProbeRun × Session
  | [] => ([], s)
  | a :: rest =>
    let (result, s) := s.act a
    let (results, s) := s.run rest
    (result.toList ++ results, s)

/-- Nobody asks for a log when a logger is made. -/
def Silent (s : Session) : List Action → Prop
  | [] => True
  | a :: rest =>
    (match a with
      | .openLogger _ | .probe _ => asksForLog s.machine.switch = false
      | .setVariable _ | .note .. => True) ∧
    (s.act a).2.Silent rest

structure Quiet (s : Session) (home : LogHome) : Prop where
  loggers : ∀ l ∈ s.loggers, l.enabled = false
  home : s.machine.home = home

end Session

theorem Machine.openLogger_unasked (m : Machine) (session : String)
    (unasked : asksForLog m.switch = false) : m.openLogger session = (⟨false, session⟩, m) := by
  rw [openLogger, unasked]
  rfl

theorem Machine.home_probe (m : Machine) (options : Options) (client : Client) (o : Occasion)
    (unasked : asksForLog m.switch = false) : (m.probe options client o).2.home = m.home := by
  have left := Logger.snd_follow ⟨false, o.session⟩ o.clocks client (.ofProbe options o) 0 m.home rfl
  have follows := m.probe_follows options client o
  simp only [m.openLogger_unasked o.session unasked] at follows
  simp only [follows] at left
  exact left

namespace Session

theorem quiet_act (s : Session) (a : Action) (rest : List Action) (home : LogHome)
    (quiet : s.Quiet home) (silent : s.Silent (a :: rest)) : (s.act a).2.Quiet home := by
  obtain ⟨unasked, -⟩ := silent
  cases a with
  | setVariable value => exact ⟨quiet.loggers, quiet.home⟩
  | openLogger session =>
      rw [act, s.machine.openLogger_unasked session unasked]
      constructor
      case loggers =>
        intro l member
        rcases List.mem_append.mp member with before | new
        · exact quiet.loggers l before
        · rw [List.mem_singleton.mp new]
      case home => exact quiet.home
  | note i clock n =>
      rw [act]
      cases called : s.loggers[i]? with
      | none => exact quiet
      | some l =>
          have disabled := quiet.loggers l (List.mem_of_getElem? called)
          have left : l.note clock s.machine.home n = s.machine.home := by
            rw [Logger.note, disabled]
            exact if_neg Bool.false_ne_true
          constructor
          case loggers => exact quiet.loggers
          case home => exact left.trans quiet.home
  | probe t =>
      have left := s.machine.home_probe t.options t.client t.occasion unasked
      rw [act]
      constructor
      case loggers => exact quiet.loggers
      case home => exact left.trans quiet.home

theorem quiet_run (s : Session) (actions : List Action) (home : LogHome) (quiet : s.Quiet home)
    (silent : s.Silent actions) : (s.run actions).2.Quiet home := by
  induction actions generalizing s with
  | nil => exact quiet
  | cons a rest ih => exact ih _ (s.quiet_act a rest home quiet silent) silent.2

end Session

/-- A probe comes to the same whatever the variable that asks for a log, and whatever stands where
the log's directory should be; and while nobody asks for a log, that place is left as it is. -/
theorem log_of_no_consequence (options : Options) (client : Client) (m n : Machine) (o p : Occasion)
    (s : Session) (actions : List Action) (first : s.loggers = []) (silent : s.Silent actions) :
    ((m.probe options client o).1.Agrees (n.probe options client p).1) ∧
      (s.run actions).2.machine.home = s.machine.home := by
  constructor
  · rw [m.probe_fst, n.probe_fst]
    exact Probe.run_agrees options client o p
  · have quiet : s.Quiet s.machine.home := by
      constructor
      case loggers =>
        rw [first]
        exact nofun
      case home => rfl
    exact (s.quiet_run actions s.machine.home quiet silent).home

def obstructedMachine : Machine :=
  ⟨some "yes", .directory { nodes := .ofPairs [(logName, .folder 0), (lockName, .folder 0)] }⟩

def silentActions : List Action :=
  [.setVariable (some " No "), .openLogger "0a1b2c3d", .note 0 ⟨0, "stamp", "noon"⟩ (.debug "a" "b" "c"),
    .probe ⟨{}, answered, namedOccasion⟩, .setVariable none, .probe ⟨{}, refused, namedOccasion⟩]

theorem log_of_no_consequence_silent :
    Session.Silent ⟨⟨some "1", .missing⟩, []⟩ silentActions ∧
      ((Machine.probe ⟨none, .missing⟩ {} answered namedOccasion).1.Agrees
        (obstructedMachine.probe {} answered ⟨"ffffffff", "midnight", 9, namedOccasion.clocks⟩).1) ∧
      (Session.run ⟨⟨some "1", .missing⟩, []⟩ silentActions).2.machine.home = .missing := by
  have silent : Session.Silent ⟨⟨some "1", .missing⟩, []⟩ silentActions :=
    ⟨trivial, by decide, trivial, by decide, trivial, by decide, trivial⟩
  exact ⟨silent, log_of_no_consequence {} answered ⟨none, .missing⟩ obstructedMachine namedOccasion
    ⟨"ffffffff", "midnight", 9, namedOccasion.clocks⟩ ⟨⟨some "1", .missing⟩, []⟩ silentActions rfl
    silent⟩

end ProxyCheck
