import ProxyCheck.Proofs.Journal.Effect
import ProxyCheck.Proofs.Journal.Growth

/-! Rotations that come to nothing. A line is appended whatever keeps its rotation from happening, and
whatever goes wrong with one on its way. -/
namespace ProxyCheck

/-- Which file an entry is. A folder is none. -/
def Node.identity (n : Node) : Option Nat :=
  n.file?.map File.id

namespace Directory

/-- The log can be opened for appending: it is a file, or there is none yet. -/
def Openable (d : Directory) : Prop :=
  ∀ modified, d.nodes.get? logName ≠ some (.folder modified)

/-- What keeps a rotation from happening: somebody else has the lock, or a folder stands where the file
of the lock would be, or where the log would be moved. -/
inductive Hindered (d : Directory) : Prop where
  | held (f : File) (lock : d.file? lockName = some f) (locked : f.id ∈ d.locks)
  | lockFolder (modified : Nat) (present : d.nodes.get? lockName = some (.folder modified))
  | stagingFolder (modified : Nat) (present : d.nodes.get? stagingName = some (.folder modified))

/-- No archive has come or gone: each name of one stands for the same file or for none, as before. -/
def SameArchives (d e : Directory) : Prop :=
  ∀ name, isArchiveName logStem name →
    (e.nodes.get? name).map Node.identity = (d.nodes.get? name).map Node.identity

/-- A run of appends with these lines, each of which finds its rotation hindered. In between, others may
do what leaves the log and the archives alone. -/
inductive HinderedRun : Directory → List String → Directory → Prop where
  | nil (d : Directory) : HinderedRun d [] d
  | append (d e : Directory) (clock : Clock) (line : String) (rest : List String)
    (hindered : d.Hindered) (later : HinderedRun (d.append clock line) rest e) :
    HinderedRun d (line :: rest) e
  | others (d d' e : Directory) (lines : List String)
    (log : d'.nodes.get? logName = d.nodes.get? logName) (archives : d.SameArchives d')
    (later : HinderedRun d' lines e) : HinderedRun d lines e

theorem openable_congr (d e : Directory) (openable : d.Openable)
    (log : e.nodes.get? logName = d.nodes.get? logName) : e.Openable := by
  intro modified
  rw [log]
  exact openable modified

theorem isOversized_congr (d e : Directory)
    (log : e.nodes.get? logName = d.nodes.get? logName) : e.isOversized = d.isOversized := by
  rw [isOversized, file?, log, isOversized, file?]

theorem identity_update (d : Directory) (id : Nat) (change : File → File)
    (same : ∀ f, (change f).id = f.id) (name : String) :
    ((d.update id change).nodes.get? name).map Node.identity =
      (d.nodes.get? name).map Node.identity := by
  rw [get?_update, Option.map_map]
  apply Option.map_congr
  intro node _
  cases node with
  | folder modified => rfl
  | file f =>
      by_cases here : f.id = id
      · simp [Node.identity, Node.file?, here, same]
      · simp [here]

theorem openFile_log (d : Directory) (now : Nat) (openable : d.Openable) :
    ∃ g e, d.openFile logName now = some (g.id, e) ∧ e.file? logName = some g ∧
      g.content = d.logContent := by
  cases found : d.nodes.get? logName with
  | none =>
      refine ⟨⟨d.fresh, .empty, false, now⟩, _, d.openFile_absent logName now found, ?_, ?_⟩
      · rw [file?_addFile, if_pos rfl]
      · rw [logContent, found]
        rfl
  | some node =>
      cases node with
      | folder modified => exact absurd found (openable modified)
      | file f =>
          have present := (d.file?_eq_some_iff logName f).mpr found
          exact ⟨f, d, d.openFile_present logName f now present, present,
            (d.logContent_of_file f present).symm⟩

theorem appendTo_log (d : Directory) (g : File) (line : ByteArray) (now : Nat)
    (present : d.file? logName = some g) :
    (d.appendTo g.id line now).Openable ∧
      (d.appendTo g.id line now).logContent = g.content ++ line := by
  have written : (d.appendTo g.id line now).file? logName =
      some { g with content := g.content ++ line, modified := now } := by
    rw [appendTo, file?_update, present]
    simp
  constructor
  · intro modified folder
    rw [file?, folder] at written
    cases written
  · exact logContent_of_file _ _ written

theorem logContent_addLine (d : Directory) (clock : Clock) (line : ByteArray)
    (openable : d.Openable) :
    (d.addLine clock line).Openable ∧ (d.addLine clock line).logContent = d.logContent ++ line := by
  obtain ⟨g, e, opened, present, content⟩ := d.openFile_log clock.now openable
  rw [addLine, opened, ← content]
  exact e.appendTo_log g line clock.now present

theorem identity_addLine (d : Directory) (clock : Clock) (line : ByteArray) (name : String)
    (apart : name ≠ logName) :
    ((d.addLine clock line).nodes.get? name).map Node.identity =
      (d.nodes.get? name).map Node.identity := by
  rw [addLine]
  cases opened : d.openFile logName clock.now with
  | none => rfl
  | some result =>
      rcases result with ⟨id, e⟩
      have before : e.nodes.get? name = d.nodes.get? name := by
        rcases d.openFile_cases e logName clock.now id opened with ⟨f, -, -, rfl⟩ | ⟨-, -, rfl⟩
        · rfl
        · rw [get?_addFile, if_neg apart]
      simp only
      have written := identity_update e id
        (fun f => { f with content := f.content ++ line, modified := clock.now }) (fun f => rfl) name
      exact written.trans (congrArg (Option.map Node.identity) before)

theorem locks_addLine (d : Directory) (clock : Clock) (line : ByteArray) :
    (d.addLine clock line).locks = d.locks := by
  rw [addLine]
  cases opened : d.openFile logName clock.now with
  | none => rfl
  | some result =>
      rcases result with ⟨id, e⟩
      rcases d.openFile_cases e logName clock.now id opened with ⟨f, -, -, rfl⟩ | ⟨-, -, rfl⟩
      · rfl
      · rfl

theorem folder_of_identity (d e : Directory) (name : String) (modified : Nat)
    (same : (e.nodes.get? name).map Node.identity = (d.nodes.get? name).map Node.identity)
    (present : d.nodes.get? name = some (.folder modified)) :
    ∃ modified, e.nodes.get? name = some (.folder modified) := by
  rw [present] at same
  obtain ⟨node, there, none⟩ := Option.map_eq_some_iff.mp same
  cases node with
  | folder modified => exact ⟨modified, there⟩
  | file f => cases none

theorem file_of_identity (d e : Directory) (name : String) (f : File)
    (same : (e.nodes.get? name).map Node.identity = (d.nodes.get? name).map Node.identity)
    (present : d.file? name = some f) : ∃ g, e.file? name = some g ∧ g.id = f.id := by
  rw [(d.file?_eq_some_iff name f).mp present] at same
  obtain ⟨node, there, some⟩ := Option.map_eq_some_iff.mp same
  cases node with
  | folder modified => cases some
  | file g => exact ⟨g, (e.file?_eq_some_iff name g).mpr there, Option.some.inj some⟩

theorem hindered_addLine (d : Directory) (clock : Clock) (line : ByteArray)
    (hindered : d.Hindered) : (d.addLine clock line).Hindered := by
  cases hindered with
  | held f lock locked =>
      obtain ⟨g, there, same⟩ := d.file_of_identity _ lockName f
        (d.identity_addLine clock line lockName (by decide)) lock
      refine .held g there ?_
      rw [same, locks_addLine]
      exact locked
  | lockFolder modified present =>
      obtain ⟨modified, there⟩ := d.folder_of_identity _ lockName modified
        (d.identity_addLine clock line lockName (by decide)) present
      exact .lockFolder modified there
  | stagingFolder modified present =>
      obtain ⟨modified, there⟩ := d.folder_of_identity _ stagingName modified
        (d.identity_addLine clock line stagingName (by decide)) present
      exact .stagingFolder modified there

end Directory

namespace Stage

variable (clock : Clock) (line : ByteArray)

def isEarly : Stage → Bool
  | .createArchive .. | .pack .. | .dropStaging _ | .prune _ | .write _ | .done => false
  | _ => true

theorem rename_folder (d : Directory) (old new : String) (modified : Nat)
    (folder : d.nodes.get? new = some (.folder modified)) : d.rename old new = none := by
  rw [Directory.rename, folder]
  cases d.file? old <;> rfl

/-- What an early step does: it goes on to another early stage, and of the directory changes nothing but
the file of the lock; or else it moves the log away. -/
theorem early_step (d : Directory) (s : Stage) (early : s.isEarly) (closed : s ≠ .openLog) :
    ((s.step clock line d).1.isEarly ∧
        (∀ lock, (s.step clock line d).1 = .moveAway lock → d.isOversized) ∧
        ∀ name, name ≠ lockName → (s.step clock line d).2.nodes.get? name = d.nodes.get? name) ∨
      ∃ lock f e, s = .moveAway lock ∧ d.file? logName = some f ∧
        d.rename logName stagingName = some e ∧
        s.step clock line d = (.createArchive lock (d.freeArchiveName logStem clock.stamp), e) := by
  cases s with
  | measure =>
      left
      rw [step]
      by_cases large : d.isOversized
      · rw [if_pos large]
        exact ⟨rfl, by simp, fun name apart => rfl⟩
      · rw [if_neg large]
        exact ⟨rfl, by simp, fun name apart => rfl⟩
  | openLock =>
      left
      rw [step]
      cases opened : d.openFile lockName clock.now with
      | none => exact ⟨rfl, by simp, fun name apart => rfl⟩
      | some result =>
          rcases result with ⟨id, e⟩
          refine ⟨rfl, by simp, ?_⟩
          intro name apart
          rcases d.openFile_cases e lockName clock.now id opened with ⟨f, -, -, rfl⟩ | ⟨-, -, rfl⟩
          · rfl
          · exact (d.get?_addFile lockName _ name).trans (if_neg apart)
  | tryLock lock =>
      left
      rw [step, Directory.lock]
      by_cases held : d.locks.contains lock
      · rw [if_pos held]
        exact ⟨rfl, by simp, fun name apart => rfl⟩
      · rw [if_neg held]
        exact ⟨rfl, by simp, fun name apart => rfl⟩
  | measureAgain lock =>
      left
      rw [step]
      by_cases large : d.isOversized
      · rw [if_pos large]
        exact ⟨rfl, fun _ _ => large, fun name apart => rfl⟩
      · rw [if_neg large]
        exact ⟨rfl, by simp, fun name apart => rfl⟩
  | moveAway lock =>
      cases renamed : d.rename logName stagingName with
      | none =>
          left
          rw [step, renamed]
          exact ⟨rfl, by simp, fun name apart => rfl⟩
      | some e =>
          right
          obtain ⟨f, log, -⟩ := d.rename_cases e logName stagingName renamed
          refine ⟨lock, f, e, rfl, log, rfl, ?_⟩
          rw [step, renamed]
  | removeLock lock =>
      left
      refine ⟨rfl, by simp [step], ?_⟩
      intro name apart
      rw [step, Directory.get?_removeFile, if_neg fun both => apart both.1]
  | release lock => exact .inl ⟨rfl, by simp [step], fun name apart => rfl⟩
  | openLog => exact absurd rfl closed
  | createArchive lock name => cases early
  | pack lock archive => cases early
  | dropStaging lock => cases early
  | prune lock => cases early
  | write log => cases early
  | done => cases early

theorem settle_early (d : Directory) (s : Stage) (modified : Nat) (early : s.isEarly)
    (folder : d.nodes.get? stagingName = some (.folder modified)) :
    ∃ e : Directory, s.settle clock line d = e.addLine clock line ∧
      ∀ name, name ≠ lockName → e.nodes.get? name = d.nodes.get? name := by
  induction bound : s.remaining using Nat.strongRecOn generalizing s d with
  | ind n ih =>
      by_cases opens : s = .openLog
      · refine ⟨d, ?_, fun name apart => rfl⟩
        rw [opens, Directory.settle_openLog]
      · have unfinished : s ≠ .done := by
          intro same
          rw [same] at early
          cases early
        have less := remaining_step clock line d s unfinished
        rcases early_step clock line d s early opens with ⟨next, -, rest⟩ | ⟨lock, f, e, -, -, moved, -⟩
        · obtain ⟨e, settled, same⟩ := ih _ (bound ▸ less) (s.step clock line d).2 _ next
            ((rest stagingName (by decide)).trans folder) rfl
          refine ⟨e, ?_, fun name apart => (same name apart).trans (rest name apart)⟩
          rw [settle_step, settled]
        · rw [rename_folder d logName stagingName modified folder] at moved
          cases moved

end Stage

namespace Directory

open Stage

theorem append_of_hindered (d : Directory) (clock : Clock) (line : String) (hindered : d.Hindered) :
    ∃ e : Directory, d.append clock line = e.addLine clock (lineBytes line) ∧ e.Hindered ∧
      ∀ name, name ≠ lockName → e.nodes.get? name = d.nodes.get? name := by
  have plain (stays : d.append clock line = d.addLine clock (lineBytes line)) :
      ∃ e : Directory, d.append clock line = e.addLine clock (lineBytes line) ∧ e.Hindered ∧
        ∀ name, name ≠ lockName → e.nodes.get? name = d.nodes.get? name :=
    ⟨d, stays, hindered, fun name apart => rfl⟩
  cases large : d.isOversized with
  | false => exact plain (d.append_small clock line large)
  | true =>
      have opens : d.append clock line = Stage.openLock.settle clock (lineBytes line) d := by
        rw [append_eq_settle, settle_step, step, if_pos large]
      cases hindered with
      | held f lock locked =>
          apply plain
          have taken : d.lock f.id = none := by
            rw [Directory.lock, if_pos (by simpa using locked)]
          rw [opens, settle_step, step, d.openFile_present lockName f clock.now lock]
          simp only
          rw [settle_step, step, taken]
          exact d.settle_openLog clock (lineBytes line)
      | lockFolder modified present =>
          apply plain
          rw [opens, settle_step, step, openFile, present]
          exact d.settle_openLog clock (lineBytes line)
      | stagingFolder modified present =>
          obtain ⟨e, settled, same⟩ :=
            settle_early clock (lineBytes line) d .openLock modified rfl present
          exact ⟨e, opens.trans settled,
            .stagingFolder modified ((same stagingName (by decide)).trans present), same⟩

theorem hindered_append (d : Directory) (clock : Clock) (line : String) (hindered : d.Hindered) :
    (d.append clock line).Hindered := by
  obtain ⟨e, appended, still, -⟩ := d.append_of_hindered clock line hindered
  rw [appended]
  exact e.hindered_addLine clock (lineBytes line) still

theorem append_hindered (d : Directory) (clock : Clock) (line : String) (openable : d.Openable)
    (hindered : d.Hindered) :
    (d.append clock line).Openable ∧
      (d.append clock line).logContent = d.logContent ++ lineBytes line ∧
      d.SameArchives (d.append clock line) := by
  obtain ⟨e, appended, -, rest⟩ := d.append_of_hindered clock line hindered
  have log := rest logName (by decide)
  obtain ⟨next, content⟩ :=
    e.logContent_addLine clock (lineBytes line) (d.openable_congr e openable log)
  rw [appended]
  refine ⟨next, ?_, ?_⟩
  · rw [content, d.logContent_congr e log]
  · intro name named
    have notLog := ne_of_isArchiveName logStem name logName named logName_not_archive
    have notLock := ne_of_isArchiveName logStem name lockName named lockName_not_archive
    rw [e.identity_addLine clock (lineBytes line) name notLog, rest name notLock]

theorem hinderedRun_keeps (d e : Directory) (lines : List String) (run : HinderedRun d lines e)
    (openable : d.Openable) :
    e.logContent = d.logContent ++ textOf lines ∧ d.SameArchives e := by
  induction run with
  | nil d => exact ⟨ByteArray.append_empty.symm, fun name named => rfl⟩
  | append d e clock line rest hindered later ih =>
      obtain ⟨next, content, archives⟩ := d.append_hindered clock line openable hindered
      obtain ⟨grown, same⟩ := ih next
      refine ⟨?_, fun name named => (same name named).trans (archives name named)⟩
      calc e.logContent
          = (d.append clock line).logContent ++ textOf rest := grown
        _ = (d.logContent ++ lineBytes line) ++ textOf rest := by rw [content]
        _ = d.logContent ++ textOf (line :: rest) := ByteArray.append_assoc
  | others d d' e lines log archives later ih =>
      obtain ⟨grown, same⟩ := ih (d.openable_congr d' openable log)
      refine ⟨?_, fun name named => (same name named).trans (archives name named)⟩
      rw [grown, d.logContent_congr d' log]

theorem hinderedRun_appendAll (d : Directory) (run : List (Clock × String)) (hindered : d.Hindered) :
    HinderedRun d (run.map Prod.snd) (d.appendAll run) := by
  induction run generalizing d with
  | nil => exact .nil d
  | cons head rest ih =>
      rcases head with ⟨clock, line⟩
      exact .append d _ clock line _ hindered
        (ih (d.append clock line) (d.hindered_append clock line hindered))

end Directory

namespace Stage

def onFailure : Stage → Stage
  | .measure | .openLock | .tryLock _ | .release _ => .openLog
  | .measureAgain lock | .moveAway lock | .createArchive lock _ | .pack lock _ | .dropStaging lock
  | .prune lock => .removeLock lock
  | .removeLock lock => .release lock
  | .openLog | .write _ | .done => .done

def isRotation : Stage → Bool
  | .openLog | .write _ | .done => false
  | _ => true

/-- One operation of an append. Those of the rotation may fail anywhere, and then leave behind whatever
they will, except under the name of the log. -/
inductive Attempt (clock : Clock) (line : ByteArray) :
    Stage × Directory → Stage × Directory → Prop where
  | works (s : Stage) (d : Directory) : Attempt clock line (s, d) (s.step clock line d)
  | fails (s : Stage) (d e : Directory) (rotation : s.isRotation)
    (log : e.nodes.get? logName = d.nodes.get? logName) :
    Attempt clock line (s, d) (s.onFailure, e)

abbrev Attempts (clock : Clock) (line : ByteArray) : Stage × Directory → Stage × Directory → Prop :=
  Relation.ReflTransGen (Attempt clock line)

/-- The log of the start was large, and has been renamed on the way: at some point it stands under the
name of a log on its way into an archive, and there is no log. -/
inductive Moved (clock : Clock) (line : ByteArray) (d : Directory) (last : Stage × Directory) :
    Prop where
  | away (f : File) (lock : Nat) (name : String) (e : Directory) (log : d.file? logName = some f)
    (large : logLimit ≤ f.content.size)
    (before : Attempts clock line (.measure, d) (.createArchive lock name, e))
    (staged : e.file? stagingName = some f) (gone : e.nodes.get? logName = none)
    (after : Attempts clock line (.createArchive lock name, e) last)

/-- The log has been moved away, and is still to be opened. -/
def IsLate : Stage → Prop
  | .createArchive _ name => isArchiveName logStem name
  | .pack .. | .dropStaging _ | .prune _ | .removeLock _ | .release _ | .openLog => True
  | _ => False

section

variable (clock : Clock) (line : ByteArray)

theorem attempts_run (n : Nat) (state : Stage × Directory) :
    Attempts clock line state (run clock line n state) := by
  induction n generalizing state with
  | zero => exact .refl
  | succ n ih => exact .head (.works state.1 state.2) (ih _)

theorem moved_step (d : Directory) (p q : Stage × Directory) (moved : Moved clock line d p)
    (attempt : Attempt clock line p q) : Moved clock line d q := by
  cases moved with
  | away f lock name e log large before staged gone after =>
      exact .away f lock name e log large before staged gone (after.tail attempt)

theorem late_step (d : Directory) (s : Stage) (late : s.IsLate) (closed : s ≠ .openLog)
    (gone : d.nodes.get? logName = none) :
    (s.step clock line d).1.IsLate ∧ (s.step clock line d).2.nodes.get? logName = none := by
  cases s with
  | createArchive lock name =>
      have apart := (ne_of_isArchiveName logStem name logName late logName_not_archive).symm
      rw [step, Directory.createFile]
      cases opened : d.openFile name clock.now with
      | none => exact ⟨trivial, gone⟩
      | some result =>
          rcases result with ⟨id, e⟩
          have still : e.nodes.get? logName = none := by
            rcases d.openFile_cases e name clock.now id opened with ⟨f, -, -, rfl⟩ | ⟨-, -, rfl⟩
            · exact gone
            · rw [Directory.get?_addFile, if_neg apart, gone]
          refine ⟨trivial, ?_⟩
          simp only [Option.map_some]
          rw [Directory.get?_update, still]
          rfl
  | pack lock archive =>
      rw [step]
      cases d.file? stagingName with
      | none =>
          refine ⟨trivial, ?_⟩
          simp only
          rw [Directory.pack, Directory.get?_update, gone]
          rfl
      | some staging =>
          refine ⟨trivial, ?_⟩
          simp only
          rw [Directory.pack, Directory.get?_update, gone]
          rfl
  | dropStaging lock =>
      have still := d.get?_removeFile stagingName logName
      have apart : logName ≠ stagingName := by decide
      rw [if_neg fun both => apart both.1, gone] at still
      rw [step]
      cases removed : d.removeFile stagingName with
      | none => exact ⟨trivial, gone⟩
      | some e =>
          rw [removed] at still
          exact ⟨trivial, still⟩
  | prune lock =>
      refine ⟨trivial, ?_⟩
      rw [step, d.get?_prune_other logStem logName logName_not_archive, gone]
  | removeLock lock =>
      have apart : logName ≠ lockName := by decide
      refine ⟨trivial, ?_⟩
      rw [step, Directory.get?_removeFile, if_neg fun both => apart both.1, gone]
  | release lock => exact ⟨trivial, gone⟩
  | openLog => exact absurd rfl closed
  | measure => exact late.elim
  | openLock => exact late.elim
  | tryLock lock => exact late.elim
  | measureAgain lock => exact late.elim
  | moveAway lock => exact late.elim
  | write log => exact late.elim
  | done => exact late.elim

theorem of_onFailure (s : Stage) (rotation : s.isRotation) :
    s.onFailure.isEarly ∧ s.onFailure.IsLate ∧ ∀ lock, s.onFailure ≠ .moveAway lock := by
  cases s with
  | openLog => cases rotation
  | write log => cases rotation
  | done => cases rotation
  | _ => exact ⟨rfl, trivial, nofun⟩

inductive Progress (d : Directory) : Stage × Directory → Prop where
  | early (s : Stage) (e : Directory) (early : s.isEarly)
    (log : e.nodes.get? logName = d.nodes.get? logName)
    (large : ∀ lock, s = .moveAway lock → d.isOversized) : Progress d (s, e)
  | late (s : Stage) (e : Directory) (late : s.IsLate) (gone : e.nodes.get? logName = none)
    (moved : Moved clock line d (s, e)) : Progress d (s, e)
  | opened (e : Directory) (g : File) (log : e.file? logName = some g)
    (content : g.content = d.logContent ∨
      g.content = .empty ∧ Moved clock line d (.write g.id, e)) : Progress d (.write g.id, e)
  | written (e : Directory) (content : e.logContent = d.logContent ++ line ∨
      e.logContent = line ∧ Moved clock line d (.done, e)) : Progress d (.done, e)

theorem progress_early (d e : Directory) (s : Stage) (q : Stage × Directory) (openable : d.Openable)
    (early : s.isEarly) (log : e.nodes.get? logName = d.nodes.get? logName)
    (large : ∀ lock, s = .moveAway lock → d.isOversized)
    (before : Attempts clock line (.measure, d) (s, e)) (attempt : Attempt clock line (s, e) q) :
    Progress clock line d q := by
  have same := d.logContent_congr e log
  cases attempt with
  | works =>
      by_cases opens : s = .openLog
      · obtain ⟨g, after, opened, present, content⟩ :=
          e.openFile_log clock.now (d.openable_congr e openable log)
        rw [opens, step, opened]
        exact .opened after g present (.inl (content.trans same))
      · rcases early_step clock line e s early opens with
          ⟨next, oversized, rest⟩ | ⟨lock, f, after, rfl, logged, renamed, stepped⟩
        · refine .early _ _ next ((rest logName (by decide)).trans log) ?_
          intro lock moves
          rw [← d.isOversized_congr e log]
          exact oversized lock moves
        · obtain ⟨f', logged', moved⟩ := e.rename_cases after logName stagingName renamed
          rw [logged] at logged'
          cases logged'
          have start : d.file? logName = some f := by
            rw [Directory.file?, ← log]
            exact logged
          have size : logLimit ≤ f.content.size := by
            have oversized := large lock rfl
            simpa [Directory.isOversized, start] using oversized
          have staged : after.file? stagingName = some f := by
            rw [moved, Directory.file?_rename, if_pos rfl]
          have gone : after.nodes.get? logName = none := by
            rw [moved, NameMap.get?_insert, if_neg (by decide), NameMap.get?_erase, if_pos rfl]
          have reached := before.tail (.works (.moveAway lock) e)
          rw [stepped] at reached ⊢
          exact .late _ after (e.isArchiveName_freeArchiveName logStem clock.stamp) gone
            (.away f lock _ after start size reached staged gone .refl)
  | fails _ _ after rotation kept =>
      obtain ⟨next, -, stays⟩ := of_onFailure s rotation
      exact .early _ after next (kept.trans log) fun lock moves => absurd moves (stays lock)

theorem progress_late (d e : Directory) (s : Stage) (q : Stage × Directory) (late : s.IsLate)
    (gone : e.nodes.get? logName = none) (moved : Moved clock line d (s, e))
    (attempt : Attempt clock line (s, e) q) : Progress clock line d q := by
  have next := moved_step clock line d _ q moved attempt
  cases attempt with
  | works =>
      by_cases opens : s = .openLog
      · have openable : e.Openable := by
          intro modified
          rw [gone]
          exact nofun
        obtain ⟨g, after, opened, present, content⟩ := e.openFile_log clock.now openable
        have empty : e.logContent = .empty := by
          rw [Directory.logContent, gone]
          rfl
        rw [opens, step, opened] at next ⊢
        exact .opened after g present (.inr ⟨content.trans empty, next⟩)
      · obtain ⟨still, none⟩ := late_step clock line e s late opens gone
        exact .late _ _ still none next
  | fails _ _ after rotation kept =>
      exact .late _ after (of_onFailure s rotation).2.1 (kept.trans gone) next

theorem progress_opened (d e : Directory) (g : File) (q : Stage × Directory)
    (log : e.file? logName = some g)
    (content : g.content = d.logContent ∨ g.content = .empty ∧ Moved clock line d (.write g.id, e))
    (attempt : Attempt clock line (.write g.id, e) q) : Progress clock line d q := by
  cases attempt with
  | fails _ _ after rotation kept => cases rotation
  | works =>
      have written := (e.appendTo_log g line clock.now log).2
      apply Progress.written
      rw [written]
      rcases content with same | ⟨empty, moved⟩
      · exact .inl (congrArg (· ++ line) same)
      · right
        rw [empty, ByteArray.empty_append]
        exact ⟨rfl, moved_step clock line d _ _ moved (.works (.write g.id) e)⟩

theorem progress_attempts (d : Directory) (last : Stage × Directory) (openable : d.Openable)
    (path : Attempts clock line (.measure, d) last) : Progress clock line d last := by
  induction path with
  | refl => exact .early .measure d rfl rfl nofun
  | tail before attempt progress =>
      cases progress with
      | early s e early log large =>
          exact progress_early clock line d e s _ openable early log large before attempt
      | late s e late gone moved => exact progress_late clock line d e s _ late gone moved attempt
      | opened e g log content => exact progress_opened clock line d e g _ log content attempt
      | written e content =>
          cases attempt with
          | works => exact .written e content
          | fails _ _ after rotation kept => cases rotation

end

end Stage

namespace Directory

/-- Whatever keeps a rotation from happening, and whatever goes wrong with one, the log has the line. It
has lost what was in it only where that was moved away, being large. -/
theorem append_despite_hindrance (d : Directory) (openable : d.Openable) :
    (∀ lines e, HinderedRun d lines e →
        e.logContent = d.logContent ++ textOf lines ∧ d.SameArchives e) ∧
      (d.Hindered → ∀ run, HinderedRun d (run.map Prod.snd) (d.appendAll run)) ∧
      ∀ clock line,
        Stage.Attempts clock (lineBytes line) (.measure, d) (.done, d.append clock line) ∧
          ∀ e, Stage.Attempts clock (lineBytes line) (.measure, d) (.done, e) →
            e.logContent = d.logContent ++ lineBytes line ∨
              e.logContent = lineBytes line ∧ Stage.Moved clock (lineBytes line) d (.done, e) := by
  refine ⟨?_, ?_, ?_⟩
  · intro lines e run
    exact d.hinderedRun_keeps e lines run openable
  · intro hindered run
    exact d.hinderedRun_appendAll run hindered
  · intro clock line
    constructor
    · have ends := Stage.run_done clock (lineBytes line) Stage.measure.remaining .measure d (Nat.le_refl _)
      have path := Stage.attempts_run clock (lineBytes line) Stage.measure.remaining (.measure, d)
      have last : Stage.run clock (lineBytes line) Stage.measure.remaining (.measure, d) =
          (.done, d.append clock line) := Prod.ext ends rfl
      rwa [last] at path
    · intro e path
      have progress := Stage.progress_attempts clock (lineBytes line) d _ openable path
      cases progress with
      | early _ _ early log large => cases early
      | late _ _ late gone moved => exact late.elim
      | written _ content => exact content

def awaited (d : Directory) : Directory :=
  { (d.addFile logName (largeFile 0)).addFile lockName ⟨1, .empty, false, 0⟩ with locks := [1] }

def walled (d : Directory) : Directory :=
  { d.put stagingName (.folder 0) with locks := [] }

def atNoon : Clock :=
  ⟨1, "stamp", "noon"⟩

/-- Two lines for a log of 4 MiB, each kept from a rotation for a reason of its own. -/
theorem append_despite_hindrance_twice :
    (awaited {}).Openable ∧ (awaited {}).Hindered ∧
      HinderedRun (awaited {}) ["one", "two"]
        (((awaited {}).append atNoon "one").walled.append atNoon "two") ∧
      (((awaited {}).append atNoon "one").walled.append atNoon "two").logContent =
        (largeFile 0).content ++ textOf ["one", "two"] ∧
      ((awaited {}).append atNoon "one").logContent.size = logLimit + 4 := by
  have log : (awaited {}).file? logName = some (largeFile 0) := rfl
  have openable : (awaited {}).Openable := by
    intro modified present
    rw [(file?_eq_some_iff _ logName _).mp log] at present
    cases present
  have hindered : (awaited {}).Hindered := .held ⟨1, .empty, false, 0⟩ rfl List.mem_cons_self
  have content := logContent_of_file _ _ log
  have size : (largeFile 0).content.size = logLimit := Array.size_replicate
  generalize awaited {} = d at *
  generalize made : (d.append atNoon "one") = first
  have wall : first.walled.nodes.get? stagingName = some (.folder 0) := by
    rw [walled, get?_put, if_pos rfl]
  have same (name : String) (apart : name ≠ stagingName) :
      first.walled.nodes.get? name = first.nodes.get? name := by
    rw [walled, get?_put, if_neg apart]
  have archives : first.SameArchives first.walled := by
    intro name named
    rw [same name (ne_of_isArchiveName logStem name stagingName named stagingName_not_archive)]
  have second : HinderedRun first.walled ["two"] (first.walled.append atNoon "two") :=
    .append _ _ atNoon "two" [] (.stagingFolder 0 wall) (.nil _)
  have between : HinderedRun first ["two"] (first.walled.append atNoon "two") :=
    .others first first.walled _ _ (same logName (by decide)) archives second
  have run : HinderedRun d ["one", "two"] (first.walled.append atNoon "two") :=
    .append d _ atNoon "one" ["two"] hindered (made.symm ▸ between)
  obtain ⟨runs, lasting, -⟩ := append_despite_hindrance d openable
  refine ⟨openable, hindered, run, ?_, ?_⟩
  · rw [(runs _ _ run).1, content]
  · have alone := (runs _ _ (lasting hindered [(atNoon, "one")])).1
    have appended : d.appendAll [(atNoon, "one")] = first := made
    have line : (textOf ["one"]).size = 4 := by decide +kernel
    rw [appended] at alone
    rw [alone, content, ByteArray.size_append, size, List.map_cons, List.map_nil, line]

end Directory

end ProxyCheck
