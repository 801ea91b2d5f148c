import ProxyCheck.Journal.Archive

/-!
Appending a line to the log, in steps. Each step is one operation on the directory; other processes
may come in between. A log that has grown large is moved into an archive first, by whoever gets the
lock. Whatever goes wrong with that, the line is written.
-/
namespace ProxyCheck

def logName : String :=
  logStem ++ ".log"

def lockName : String :=
  logStem ++ ".lock"

/-- The log on its way into an archive. -/
def stagingName : String :=
  logStem ++ ".rotating"

/-- From this size on a log is large: 4 MiB. -/
def logLimit : Nat :=
  4 * 1024 * 1024

def Directory.isOversized (d : Directory) : Bool :=
  (d.file? logName).any fun f => logLimit ≤ f.content.size

structure Clock where
  now : Nat
  stamp : String
  timestamp : String
  deriving DecidableEq, Repr

/-- What an append does next. `lock`, `archive` and `log` are files that it has opened. -/
inductive Stage where
  | measure
  | openLock
  | tryLock (lock : Nat)
  | measureAgain (lock : Nat)
  | moveAway (lock : Nat)
  | createArchive (lock : Nat) (name : String)
  | pack (lock archive : Nat)
  | dropStaging (lock : Nat)
  | prune (lock : Nat)
  | removeLock (lock : Nat)
  | release (lock : Nat)
  | openLog
  | write (log : Nat)
  | done
  deriving DecidableEq, Repr

namespace Stage

def remaining : Stage → Nat
  | .measure => 13
  | .openLock => 12
  | .tryLock _ => 11
  | .measureAgain _ => 10
  | .moveAway _ => 9
  | .createArchive .. => 8
  | .pack .. => 7
  | .dropStaging _ => 6
  | .prune _ => 5
  | .removeLock _ => 4
  | .release _ => 3
  | .openLog => 2
  | .write _ => 1
  | .done => 0

def step (clock : Clock) (line : ByteArray) (d : Directory) : Stage → Stage × Directory
  | .measure => (if d.isOversized then .openLock else .openLog, d)
  | .openLock =>
    match d.openFile lockName clock.now with
    | some (lock, d) => (.tryLock lock, d)
    | none => (.openLog, d)
  | .tryLock lock =>
    match d.lock lock with
    | some d => (.measureAgain lock, d)
    | none => (.openLog, d)
  | .measureAgain lock => (if d.isOversized then .moveAway lock else .removeLock lock, d)
  | .moveAway lock =>
    let name := d.freeArchiveName logStem clock.stamp
    match d.rename logName stagingName with
    | some d => (.createArchive lock name, d)
    | none => (.removeLock lock, d)
  | .createArchive lock name =>
    match d.createFile name clock.now with
    | some (archive, d) => (.pack lock archive, d)
    | none => (.removeLock lock, d)
  | .pack lock archive =>
    match d.file? stagingName with
    | some staging => (.dropStaging lock, d.pack archive staging.content clock.now)
    | none => (.removeLock lock, d.pack archive .empty clock.now)
  | .dropStaging lock =>
    match d.removeFile stagingName with
    | some d => (.prune lock, d)
    | none => (.removeLock lock, d)
  | .prune lock => (.removeLock lock, d.prune logStem)
  | .removeLock lock => (.release lock, (d.removeFile lockName).getD d)
  | .release lock => (.openLog, d.unlock lock)
  | .openLog =>
    match d.openFile logName clock.now with
    | some (log, d) => (.write log, d)
    | none => (.done, d)
  | .write log => (.done, d.appendTo log line clock.now)
  | .done => (.done, d)

theorem remaining_step (clock : Clock) (line : ByteArray) (d : Directory) (s : Stage)
    (unfinished : s ≠ .done) : (s.step clock line d).1.remaining < s.remaining := by
  cases s <;> simp only [step] <;> (repeat' split) <;> simp_all [remaining]

def run (clock : Clock) (line : ByteArray) : Nat → Stage × Directory → Stage × Directory
  | 0, state => state
  | n + 1, (s, d) => run clock line n (s.step clock line d)

theorem run_done (clock : Clock) (line : ByteArray) (n : Nat) (s : Stage) (d : Directory)
    (enough : s.remaining ≤ n) : (run clock line n (s, d)).1 = .done := by
  induction n generalizing s d with
  | zero => cases s <;> simp_all [remaining, run]
  | succ n ih =>
    by_cases finished : s = .done
    · subst finished
      exact ih .done d (Nat.zero_le n)
    · have less := remaining_step clock line d s finished
      exact ih (s.step clock line d).1 (s.step clock line d).2 (by omega)

end Stage

def lineBytes (line : String) : ByteArray :=
  (line ++ "\n").toUTF8

def Directory.append (d : Directory) (clock : Clock) (line : String) : Directory :=
  (Stage.run clock (lineBytes line) Stage.measure.remaining (.measure, d)).2

end ProxyCheck
