import ProxyCheck.Proofs.Journal.ArchiveName
import ProxyCheck.Proofs.Journal.Prune

/-! What an append comes to: a line in the log, and before it, where the log is large, a rotation. -/
namespace ProxyCheck

namespace Stage

variable (clock : Clock) (line : ByteArray)

/-- The directory that an append leaves if it goes on from here without interruption. -/
def settle (s : Stage) (d : Directory) : Directory :=
  (run clock line s.remaining (s, d)).2

theorem run_finished (n : Nat) (d : Directory) : run clock line n (.done, d) = (.done, d) := by
  induction n with
  | zero => rfl
  | succ n ih => exact ih

theorem run_enough (m n : Nat) (s : Stage) (d : Directory) (first : s.remaining ≤ m)
    (second : s.remaining ≤ n) : run clock line m (s, d) = run clock line n (s, d) := by
  induction m generalizing n s d with
  | zero =>
      have finished : s = .done := by cases s <;> simp_all [remaining]
      rw [finished, run_finished, run_finished]
  | succ m ih =>
      by_cases finished : s = .done
      · rw [finished, run_finished, run_finished]
      · have less := remaining_step clock line d s finished
        cases n with
        | zero => omega
        | succ n =>
            exact ih n (s.step clock line d).1 (s.step clock line d).2 (by omega) (by omega)

theorem run_add (m n : Nat) (state : Stage × Directory) :
    run clock line (m + n) state = run clock line n (run clock line m state) := by
  induction m generalizing state with
  | zero => rw [Nat.zero_add, run]
  | succ m ih =>
      rw [Nat.succ_add, run, run]
      exact ih _

theorem settle_step (s : Stage) (d : Directory) :
    s.settle clock line d =
      (s.step clock line d).1.settle clock line (s.step clock line d).2 := by
  by_cases finished : s = .done
  · rw [finished]
    rfl
  · have less := remaining_step clock line d s finished
    obtain ⟨n, count⟩ : ∃ n, s.remaining = n + 1 := ⟨s.remaining - 1, by omega⟩
    rw [settle, count, run, settle]
    rw [run_enough clock line n (s.step clock line d).1.remaining _ _ (by omega) (Nat.le_refl _)]

theorem settle_done (d : Directory) : settle clock line .done d = d := rfl

end Stage

namespace Directory

open Stage

theorem append_eq_settle (d : Directory) (clock : Clock) (line : String) :
    d.append clock line = Stage.measure.settle clock (lineBytes line) d := rfl

def addLine (d : Directory) (clock : Clock) (line : ByteArray) : Directory :=
  match d.openFile logName clock.now with
  | some (log, d) => d.appendTo log line clock.now
  | none => d

theorem settle_openLog (d : Directory) (clock : Clock) (line : ByteArray) :
    Stage.openLog.settle clock line d = d.addLine clock line := by
  rw [settle_step, step, addLine]
  cases d.openFile logName clock.now with
  | none => rfl
  | some opened =>
      rcases opened with ⟨log, e⟩
      rw [settle_step, step, settle_done]

theorem addLine_absent (d : Directory) (clock : Clock) (line : ByteArray) (coherent : d.Coherent)
    (absent : d.nodes.get? logName = none) :
    d.addLine clock line = d.addFile logName ⟨d.fresh, line, false, clock.now⟩ := by
  have sole := d.sole_addFile logName ⟨d.fresh, .empty, false, clock.now⟩ coherent rfl
  rw [addLine, d.openFile_absent logName clock.now absent]
  have written := (update_sole _ logName _ sole fun f =>
    { f with content := f.content ++ line, modified := clock.now }).trans
      (d.addFile_put logName _ _)
  simpa [appendTo] using written

theorem addLine_present (d : Directory) (clock : Clock) (line : ByteArray) (f : File)
    (sole : d.Sole logName f) :
    d.addLine clock line =
      d.put logName (.file { f with content := f.content ++ line, modified := clock.now }) := by
  rw [addLine, d.openFile_present logName f clock.now sole.present]
  exact d.update_sole logName f sole _

theorem append_small (d : Directory) (clock : Clock) (line : String)
    (small : d.isOversized = false) : d.append clock line = d.addLine clock (lineBytes line) := by
  rw [append_eq_settle, settle_step, step, small]
  exact settle_openLog d clock (lineBytes line)

def stow (d : Directory) (archive : String) (log : File) (now : Nat) : Directory :=
  { d with nodes := (d.nodes.erase logName).erase stagingName }.addFile archive
    ⟨d.fresh, log.content, true, now⟩

theorem get?_stow (d : Directory) (archive : String) (log : File) (now : Nat) (other : String) :
    (d.stow archive log now).nodes.get? other =
      if other = archive then some (.file ⟨d.fresh, log.content, true, now⟩)
      else if other = stagingName ∨ other = logName then none
      else d.nodes.get? other := by
  rw [stow, get?_addFile]
  simp only [NameMap.get?_erase]
  split
  · rfl
  · by_cases staging : other = stagingName <;> by_cases log : other = logName <;>
      simp [staging, log]

def rotate (d : Directory) (clock : Clock) (log : File) (lock : Nat) : Directory :=
  let pruned := (d.stow (d.freeArchiveName logStem clock.stamp) log clock.now).prune logStem
  unlock { pruned with nodes := pruned.nodes.erase lockName } lock

theorem archive_apart (d : Directory) (clock : Clock) (name : String)
    (different : isArchiveName logStem name = false) :
    name ≠ d.freeArchiveName logStem clock.stamp :=
  (ne_of_isArchiveName logStem _ name (d.isArchiveName_freeArchiveName logStem clock.stamp)
    different).symm

theorem coherent_rename (d : Directory) (old new : String) (f : File) (coherent : d.Coherent)
    (present : d.file? old = some f) :
    Coherent { d with nodes := (d.nodes.erase old).insert new (.file f) } := by
  constructor
  · intro name g found
    rw [file?_eq_some_iff, NameMap.get?_insert, NameMap.get?_erase] at found
    split at found
    · cases found
      exact coherent.files old f present
    · split at found
      · cases found
      · exact coherent.files name g ((d.file?_eq_some_iff name g).mpr found)
  · exact coherent.locks

theorem settle_dropStaging (d : Directory) (clock : Clock) (line : ByteArray) (lock : Nat)
    (staging : File) (present : d.file? stagingName = some staging) :
    Stage.settle clock line (.dropStaging lock) d =
      Stage.settle clock line (.prune lock) { d with nodes := d.nodes.erase stagingName } := by
  rw [settle_step, step, d.removeFile_present stagingName staging present]

theorem settle_prune (d : Directory) (clock : Clock) (line : ByteArray) (lock : Nat) (f : File)
    (present : d.file? lockName = some f) :
    Stage.settle clock line (.prune lock) d =
      (unlock { d.prune logStem with nodes := (d.prune logStem).nodes.erase lockName } lock).addLine
        clock line := by
  have stays : (d.prune logStem).file? lockName = some f := by
    rw [file?, d.get?_prune_other logStem lockName lockName_not_archive]
    exact present
  rw [settle_step, step, settle_step, step, removeFile_present _ lockName f stays, settle_step,
    step]
  exact settle_openLog _ clock line

theorem settle_createArchive (d : Directory) (clock : Clock) (line : ByteArray) (lock : Nat)
    (archive : String) (log : File) (coherent : d.Coherent)
    (absent : d.nodes.get? archive = none) (staged : d.file? stagingName = some log)
    (apart : stagingName ≠ archive) :
    Stage.settle clock line (.createArchive lock archive) d =
      Stage.settle clock line (.prune lock)
        { d.addFile archive ⟨d.fresh, log.content, true, clock.now⟩ with
          nodes := (d.addFile archive ⟨d.fresh, log.content, true, clock.now⟩).nodes.erase
            stagingName } := by
  have sole := d.sole_addFile archive ⟨d.fresh, .empty, false, clock.now⟩ coherent rfl
  have staging (f : File) : (d.addFile archive f).file? stagingName = some log := by
    rw [file?_addFile, if_neg apart, staged]
  have packed : (d.addFile archive ⟨d.fresh, .empty, false, clock.now⟩).pack d.fresh log.content
      clock.now = d.addFile archive ⟨d.fresh, log.content, true, clock.now⟩ :=
    (update_sole _ archive _ sole _).trans (d.addFile_put archive _ _)
  rw [settle_step, step, d.createFile_absent archive clock.now coherent absent]
  simp only
  rw [settle_step, step, staging]
  simp only
  rw [packed, settle_dropStaging _ clock line lock log (staging _)]

theorem settle_moveAway (d : Directory) (clock : Clock) (line : ByteArray) (lock : Nat)
    (log lockFile : File) (coherent : d.Coherent) (logged : d.file? logName = some log)
    (locked : d.file? lockName = some lockFile)
    (free : ∀ modified, d.nodes.get? stagingName ≠ some (.folder modified)) :
    Stage.settle clock line (.moveAway lock) d = (d.rotate clock log lock).addLine clock line := by
  have absent := d.freeArchiveName_absent logStem clock.stamp
  have notStaging := d.archive_apart clock stagingName stagingName_not_archive
  have notLog := d.archive_apart clock logName logName_not_archive
  have notLock := d.archive_apart clock lockName lockName_not_archive
  have moved := d.coherent_rename logName stagingName log coherent logged
  rw [settle_step, step, d.rename_present logName stagingName log logged free, rotate]
  simp only
  generalize d.freeArchiveName logStem clock.stamp = archive at absent notStaging notLog notLock ⊢
  have room : ((d.nodes.erase logName).insert stagingName (.file log)).get? archive = none := by
    rw [NameMap.get?_insert, if_neg notStaging.symm, NameMap.get?_erase, if_neg notLog.symm, absent]
  have staged : file? { d with nodes := (d.nodes.erase logName).insert stagingName (.file log) }
      stagingName = some log := by
    simp [file?_eq_some_iff]
  have stowed : ((addFile { d with
      nodes := (d.nodes.erase logName).insert stagingName (.file log) } archive
      ⟨d.fresh, log.content, true, clock.now⟩).nodes.erase stagingName) =
      (d.stow archive log clock.now).nodes := by
    apply NameMap.ext_get?
    intro other
    simp only [NameMap.get?_erase, get?_stow, get?_addFile, NameMap.get?_insert]
    grind
  rw [settle_createArchive _ clock line lock archive log moved room staged notStaging, stowed]
  apply settle_prune (d.stow archive log clock.now) clock line lock lockFile
  rw [file?_eq_some_iff, get?_stow, if_neg notLock, if_neg (by decide)]
  exact (d.file?_eq_some_iff lockName lockFile).mp locked

structure LockFree (d : Directory) : Prop where
  unlocked : ∀ f, d.file? lockName = some f → f.id ∉ d.locks
  noFolder : ∀ modified, d.nodes.get? lockName ≠ some (.folder modified)

def withLockFile (d : Directory) (clock : Clock) : Directory :=
  if (d.file? lockName).isSome then d
  else d.addFile lockName ⟨d.fresh, .empty, false, clock.now⟩

theorem absent_of_noFolder (d : Directory) (name : String)
    (noFolder : ∀ modified, d.nodes.get? name ≠ some (.folder modified))
    (noFile : d.file? name = none) : d.nodes.get? name = none := by
  cases found : d.nodes.get? name with
  | none => rfl
  | some node =>
      cases node with
      | file f => simp [file?, found, Node.file?] at noFile
      | folder modified => exact absurd found (noFolder modified)

theorem withLockFile_spec (d : Directory) (clock : Clock) (coherent : d.Coherent)
    (free : d.LockFree) :
    ∃ f, d.openFile lockName clock.now = some (f.id, d.withLockFile clock) ∧
      (d.withLockFile clock).file? lockName = some f ∧ f.id ∉ d.locks ∧
      (d.withLockFile clock).locks = d.locks ∧ (d.withLockFile clock).Coherent := by
  rw [withLockFile]
  cases found : d.file? lockName with
  | some f =>
      exact ⟨f, d.openFile_present lockName f clock.now found, found, free.unlocked f found, rfl,
        coherent⟩
  | none =>
      have absent := d.absent_of_noFolder lockName free.noFolder found
      have unused : d.fresh ∉ d.locks := fun locked =>
        Nat.lt_irrefl _ (coherent.locks d.fresh locked)
      have opened := d.openFile_absent lockName clock.now absent
      exact ⟨⟨d.fresh, .empty, false, clock.now⟩, opened, by simp, unused, rfl,
        d.coherent_addFile lockName _ coherent rfl⟩

theorem get?_withLockFile (d : Directory) (clock : Clock) (other : String)
    (apart : other ≠ lockName) : (d.withLockFile clock).nodes.get? other = d.nodes.get? other := by
  rw [withLockFile]
  split
  · rfl
  · rw [get?_addFile, if_neg apart]

def takeLock (d : Directory) (clock : Clock) (lock : Nat) : Directory :=
  { d.withLockFile clock with locks := lock :: (d.withLockFile clock).locks }

theorem isOversized_of_file (d : Directory) (log : File) (logged : d.file? logName = some log)
    (large : logLimit ≤ log.content.size) : d.isOversized := by
  simp [isOversized, logged, large]

theorem run_moveAway (d : Directory) (clock : Clock) (line : ByteArray) (log : File)
    (coherent : d.Coherent) (free : d.LockFree) (logged : d.file? logName = some log)
    (large : logLimit ≤ log.content.size) :
    ∃ lock lockFile, (d.takeLock clock lock).Coherent ∧
      (d.takeLock clock lock).file? lockName = some lockFile ∧
      (d.takeLock clock lock).file? logName = some log ∧
      Stage.run clock line 4 (.measure, d) = (.moveAway lock, d.takeLock clock lock) := by
  rcases d.withLockFile_spec clock coherent free
      with ⟨lockFile, opened, locked, unlocked, locks, safe⟩
  have oversized := d.isOversized_of_file log logged large
  have logged' : (d.takeLock clock lockFile.id).file? logName = some log := by
    rw [file?_eq_some_iff, takeLock, d.get?_withLockFile clock logName (by decide)]
    exact (d.file?_eq_some_iff logName log).mp logged
  have again := isOversized_of_file _ log logged' large
  have taken : (d.withLockFile clock).lock lockFile.id = some (d.takeLock clock lockFile.id) :=
    lock_free _ _ (locks ▸ unlocked)
  have safe' : (d.takeLock clock lockFile.id).Coherent := by
    refine ⟨safe.files, fun id member => ?_⟩
    rcases List.mem_cons.mp member with rfl | member
    · exact safe.files lockName lockFile locked
    · exact safe.locks id member
  refine ⟨lockFile.id, lockFile, safe', locked, logged', ?_⟩
  rw [Stage.run, step, if_pos oversized, Stage.run, step, opened]
  simp only
  rw [Stage.run, step, taken]
  simp only
  rw [Stage.run, step, if_pos again, Stage.run]

theorem append_large (d : Directory) (clock : Clock) (line : String) (log : File)
    (coherent : d.Coherent) (free : d.LockFree) (logged : d.file? logName = some log)
    (large : logLimit ≤ log.content.size)
    (noFolder : ∀ modified, d.nodes.get? stagingName ≠ some (.folder modified)) :
    ∃ lock, (d.takeLock clock lock).Coherent ∧ d.append clock line =
      ((d.takeLock clock lock).rotate clock log lock).addLine clock (lineBytes line) := by
  obtain ⟨lock, lockFile, safe, locked, logged, moves⟩ :=
    d.run_moveAway clock (lineBytes line) log coherent free logged large
  have staging := d.get?_withLockFile clock stagingName (by decide)
  refine ⟨lock, safe, ?_⟩
  calc d.append clock line
      = (Stage.run clock (lineBytes line) (4 + 9) (.measure, d)).2 := rfl
    _ = Stage.settle clock (lineBytes line) (.moveAway lock) (d.takeLock clock lock) := by
        rw [Stage.run_add, moves, settle, remaining]
    _ = ((d.takeLock clock lock).rotate clock log lock).addLine clock (lineBytes line) :=
        settle_moveAway _ clock _ lock log lockFile safe logged locked
          fun modified => staging ▸ noFolder modified

end Directory

end ProxyCheck
