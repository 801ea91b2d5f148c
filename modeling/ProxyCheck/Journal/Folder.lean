import ProxyCheck.Journal.Append

/-!
The stages of an append in any folder that offers what they need. In a directory they are its steps.
-/
namespace ProxyCheck

/-- What an append asks of a folder. Files that have been opened are known by numbers. -/
structure Folder (m : Type → Type) where
  isOversized : m Bool
  freeArchiveName : String → m String
  openFile : String → m (Option Nat)
  createFile : String → m (Option Nat)
  lock : Nat → m Bool
  unlock : Nat → m Unit
  rename : String → String → m Bool
  /-- Packs one file into another, which is open. Where there is none, nothing is packed. -/
  pack : String → Nat → m Bool
  removeFile : String → m Bool
  prune : m Unit
  append : Nat → ByteArray → m Unit

namespace Stage

section

variable {m : Type → Type} [Monad m]

def perform (folder : Folder m) (stamp : String) (line : ByteArray) : Stage → m Stage
  | .measure => do
    return if ← folder.isOversized then .openLock else .openLog
  | .openLock => do
    match ← folder.openFile lockName with
    | some lock => return .tryLock lock
    | none => return .openLog
  | .tryLock lock => do
    return if ← folder.lock lock then .measureAgain lock else .openLog
  | .measureAgain lock => do
    return if ← folder.isOversized then .moveAway lock else .removeLock lock
  | .moveAway lock => do
    let name ← folder.freeArchiveName stamp
    return if ← folder.rename logName stagingName then .createArchive lock name else .removeLock lock
  | .createArchive lock name => do
    match ← folder.createFile name with
    | some archive => return .pack lock archive
    | none => return .removeLock lock
  | .pack lock archive => do
    return if ← folder.pack stagingName archive then .dropStaging lock else .removeLock lock
  | .dropStaging lock => do
    return if ← folder.removeFile stagingName then .prune lock else .removeLock lock
  | .prune lock => do
    folder.prune
    return .removeLock lock
  | .removeLock lock => do
    let _ ← folder.removeFile lockName
    return .release lock
  | .release lock => do
    folder.unlock lock
    return .openLog
  | .openLog => do
    match ← folder.openFile logName with
    | some log => return .write log
    | none => return .done
  | .write log => do
    folder.append log line
    return .done
  | .done => return .done

def performAll (folder : Folder m) (stamp : String) (line : ByteArray) : Nat → Stage → m Stage
  | 0, s => return s
  | n + 1, s => do performAll folder stamp line n (← s.perform folder stamp line)

end

end Stage

def Directory.attempt {α : Type} (change : Directory → Option (α × Directory)) :
    StateM Directory (Option α) := fun d =>
  match change d with
  | some (a, d) => (some a, d)
  | none => (none, d)

theorem Directory.run_attempt {α : Type} (change : Directory → Option (α × Directory))
    (d : Directory) :
    (attempt change).run d = ((change d).map Prod.fst, ((change d).map Prod.snd).getD d) := by
  simp only [attempt, StateT.run]
  cases change d <;> rfl

def Directory.folder (clock : Clock) : Folder (StateM Directory) where
  isOversized := do return (← get).isOversized
  freeArchiveName stamp := do return (← get).freeArchiveName logStem stamp
  openFile name := attempt fun d => d.openFile name clock.now
  createFile name := attempt fun d => d.createFile name clock.now
  lock id := do return (← attempt fun d => (d.lock id).map ((), ·)).isSome
  unlock id := modify (·.unlock id)
  rename old new := do return (← attempt fun d => (d.rename old new).map ((), ·)).isSome
  pack source archive := do
    let file := (← get).file? source
    modify (·.pack archive ((file.map File.content).getD .empty) clock.now)
    return file.isSome
  removeFile name := do return (← attempt fun d => (d.removeFile name).map ((), ·)).isSome
  prune := modify (·.prune logStem)
  append id bytes := modify (·.appendTo id bytes clock.now)

namespace Stage

variable (clock : Clock) (line : ByteArray)

theorem perform_directory (s : Stage) (d : Directory) :
    (s.perform (Directory.folder clock) clock.stamp line).run d = s.step clock line d := by
  cases s with
  | measure | measureAgain | prune | release | write | done => rfl
  | openLock =>
    simp only [perform, step, Directory.folder, StateT.run_bind, Directory.run_attempt]
    cases d.openFile lockName clock.now <;> rfl
  | tryLock lock =>
    simp only [perform, step, Directory.folder, StateT.run_bind, Directory.run_attempt]
    cases d.lock lock <;> rfl
  | moveAway lock =>
    simp only [perform, step, Directory.folder, StateT.run_bind, StateT.run_get, pure_bind,
      StateT.run_pure, Directory.run_attempt]
    cases d.rename logName stagingName <;> rfl
  | createArchive lock name =>
    simp only [perform, step, Directory.folder, StateT.run_bind, Directory.run_attempt]
    cases d.createFile name clock.now <;> rfl
  | pack lock archive =>
    simp only [perform, step, Directory.folder, StateT.run_bind, StateT.run_get, pure_bind]
    cases d.file? stagingName <;> rfl
  | dropStaging lock =>
    simp only [perform, step, Directory.folder, StateT.run_bind, Directory.run_attempt]
    cases d.removeFile stagingName <;> rfl
  | removeLock lock =>
    simp only [perform, step, Directory.folder, StateT.run_bind, Directory.run_attempt]
    cases d.removeFile lockName <;> rfl
  | openLog =>
    simp only [perform, step, Directory.folder, StateT.run_bind, Directory.run_attempt]
    cases d.openFile logName clock.now <;> rfl

theorem performAll_directory (n : Nat) (s : Stage) (d : Directory) :
    (s.performAll (Directory.folder clock) clock.stamp line n).run d = run clock line n (s, d) := by
  induction n generalizing s d with
  | zero => rfl
  | succ n ih =>
    rw [performAll, StateT.run_bind, perform_directory]
    exact ih _ _

end Stage

theorem Directory.append_eq (d : Directory) (clock : Clock) (line : String) :
    d.append clock line =
      ((Stage.measure.performAll (folder clock) clock.stamp (lineBytes line)
        Stage.measure.remaining).run d).2 := by
  rw [append, Stage.performAll_directory]

end ProxyCheck
