import ProxyCheck.Proofs.Journal.History

/-! How a log grows as long as it is not moved into an archive: by one line with every append, be it
ever so large and its lock in other hands. -/
namespace ProxyCheck

namespace Directory

def Rotates (d : Directory) (clock : Clock) (line : String) : Prop :=
  ∃ n lock name, (Stage.run clock (lineBytes line) n (.measure, d)).1 = .createArchive lock name

theorem writable_of_rest (d e : Directory) (writable : d.Writable) (coherent : e.Coherent)
    (files : ∀ name f, e.file? name = some f → d.file? name = some f)
    (log : e.nodes.get? logName = d.nodes.get? logName) : e.Writable := by
  refine ⟨coherent, ?_⟩
  rcases writable.log with absent | ⟨f, sole⟩
  · exact .inl (log.trans absent)
  · refine .inr ⟨f, ?_, fun other g present same => sole.unique other g (files other g present) same⟩
    rw [file?, log]
    exact sole.present

theorem logContent_congr (d e : Directory) (log : e.nodes.get? logName = d.nodes.get? logName) :
    e.logContent = d.logContent := by
  rw [logContent, logContent, log]

theorem writable_locks (d : Directory) (locks : List Nat) (writable : d.Writable)
    (below : ∀ id ∈ locks, id < d.fresh) : Writable { d with locks } :=
  d.writable_of_rest _ writable ⟨writable.coherent.files, below⟩ (fun _ _ present => present) rfl

theorem writable_addFile (d : Directory) (name : String) (f : File) (writable : d.Writable)
    (new : f.id = d.fresh) (apart : logName ≠ name) : (d.addFile name f).Writable := by
  refine ⟨d.coherent_addFile name f writable.coherent new, ?_⟩
  rw [get?_addFile, if_neg apart]
  rcases writable.log with absent | ⟨g, sole⟩
  · exact .inl absent
  · refine .inr ⟨g, by rw [file?_addFile, if_neg apart, sole.present], fun other h present same => ?_⟩
    rw [file?_addFile] at present
    split at present
    · have below := writable.coherent.files logName g sole.present
      cases present
      omega
    · exact sole.unique other h present same

theorem writable_erase (d : Directory) (name : String) (writable : d.Writable)
    (apart : logName ≠ name) : Writable { d with nodes := d.nodes.erase name } := by
  have files (other : String) (f : File)
      (present : file? { d with nodes := d.nodes.erase name } other = some f) :
      d.file? other = some f := by
    rw [file?_eq_some_iff, NameMap.get?_erase] at present
    split at present
    · cases present
    · exact (d.file?_eq_some_iff other f).mpr present
  refine d.writable_of_rest _ writable ?_ files (by rw [NameMap.get?_erase, if_neg apart])
  exact d.coherent_of_subset _ writable.coherent files (fun _ member => member) rfl

structure KeepsLog (d e : Directory) : Prop where
  writable : e.Writable
  log : e.nodes.get? logName = d.nodes.get? logName

theorem KeepsLog.refl (d : Directory) (writable : d.Writable) : d.KeepsLog d :=
  ⟨writable, rfl⟩

theorem keepsLog_openFile (d e : Directory) (now lock : Nat) (writable : d.Writable)
    (opened : d.openFile lockName now = some (lock, e)) : d.KeepsLog e ∧ lock < e.fresh := by
  cases found : d.nodes.get? lockName with
  | none =>
      rw [d.openFile_absent lockName now found] at opened
      cases opened
      refine ⟨⟨d.writable_addFile lockName _ writable rfl (by decide), ?_⟩, Nat.lt_succ_self _⟩
      rw [get?_addFile, if_neg (by decide)]
  | some node =>
      cases node with
      | folder modified =>
          rw [openFile, found] at opened
          cases opened
      | file f =>
          have present := (d.file?_eq_some_iff lockName f).mpr found
          rw [d.openFile_present lockName f now present] at opened
          cases opened
          exact ⟨.refl d writable, writable.coherent.files lockName f present⟩

theorem keepsLog_lock (d e : Directory) (lock : Nat) (writable : d.Writable) (below : lock < d.fresh)
    (locked : d.lock lock = some e) : d.KeepsLog e := by
  rw [Directory.lock] at locked
  split at locked
  · cases locked
  · cases locked
    refine ⟨d.writable_locks _ writable fun id member => ?_, rfl⟩
    rcases List.mem_cons.mp member with rfl | member
    · exact below
    · exact writable.coherent.locks id member

theorem keepsLog_unlock (d : Directory) (lock : Nat) (writable : d.Writable) :
    d.KeepsLog (d.unlock lock) := by
  refine ⟨d.writable_locks _ writable fun id member => ?_, rfl⟩
  exact writable.coherent.locks id (List.mem_of_mem_erase member)

theorem keepsLog_removeFile (d : Directory) (writable : d.Writable) :
    d.KeepsLog ((d.removeFile lockName).getD d) := by
  cases found : d.file? lockName with
  | none =>
      rw [removeFile, found]
      exact .refl d writable
  | some f =>
      rw [d.removeFile_present lockName f found]
      refine ⟨d.writable_erase lockName writable (by decide), ?_⟩
      rw [Option.getD_some, NameMap.get?_erase, if_neg (by decide)]

def Ahead (d : Directory) : Stage → Prop
  | .tryLock lock => lock < d.fresh
  | .createArchive .. | .pack .. | .dropStaging _ | .prune _ | .write _ | .done => False
  | _ => True

theorem ahead_step (d : Directory) (clock : Clock) (line : ByteArray) (s : Stage)
    (writable : d.Writable) (ahead : d.Ahead s) (closed : s ≠ .openLog)
    (stays : ∀ lock name, (s.step clock line d).1 ≠ .createArchive lock name) :
    d.KeepsLog (s.step clock line d).2 ∧
      (s.step clock line d).2.Ahead (s.step clock line d).1 := by
  cases s with
  | measure =>
      rw [Stage.step]
      refine ⟨.refl d writable, ?_⟩
      simp only
      split <;> trivial
  | openLock =>
      rw [Stage.step]
      cases opened : d.openFile lockName clock.now with
      | none => exact ⟨.refl d writable, trivial⟩
      | some found => exact d.keepsLog_openFile found.2 clock.now found.1 writable opened
  | tryLock lock =>
      rw [Stage.step]
      cases locked : d.lock lock with
      | none => exact ⟨.refl d writable, trivial⟩
      | some e => exact ⟨d.keepsLog_lock e lock writable ahead locked, trivial⟩
  | measureAgain lock =>
      rw [Stage.step]
      refine ⟨.refl d writable, ?_⟩
      simp only
      split <;> trivial
  | moveAway lock =>
      rw [Stage.step] at stays ⊢
      cases moved : d.rename logName stagingName with
      | none => exact ⟨.refl d writable, trivial⟩
      | some e =>
          rw [moved] at stays
          exact absurd rfl (stays lock _)
  | removeLock lock => exact ⟨d.keepsLog_removeFile writable, trivial⟩
  | release lock => exact ⟨d.keepsLog_unlock lock writable, trivial⟩
  | openLog => exact absurd rfl closed
  | createArchive lock name => exact ahead.elim
  | pack lock archive => exact ahead.elim
  | dropStaging lock => exact ahead.elim
  | prune lock => exact ahead.elim
  | write log => exact ahead.elim
  | done => exact ahead.elim

theorem settle_ahead (d : Directory) (clock : Clock) (line : ByteArray) (s : Stage)
    (writable : d.Writable) (ahead : d.Ahead s)
    (stays : ∀ n lock name, (Stage.run clock line n (s, d)).1 ≠ .createArchive lock name) :
    (s.settle clock line d).Writable ∧
      (s.settle clock line d).logContent = d.logContent ++ line := by
  induction bound : s.remaining using Nat.strongRecOn generalizing s d with
  | ind n ih =>
      by_cases opens : s = .openLog
      · rw [opens, settle_openLog]
        exact d.writable_addLine clock line writable
      · have unfinished : s ≠ .done := fun same => by
          rw [same] at ahead
          exact ahead
        obtain ⟨keeps, later⟩ := d.ahead_step clock line s writable ahead opens
          fun lock name => stays 1 lock name
        have less := Stage.remaining_step clock line d s unfinished
        rw [Stage.settle_step, ← d.logContent_congr _ keeps.log]
        exact ih _ (bound ▸ less) _ _ keeps.writable later (fun n => stays (n + 1)) rfl

theorem append_of_not_rotates (d : Directory) (clock : Clock) (line : String)
    (writable : d.Writable) (stays : ¬d.Rotates clock line) :
    (d.append clock line).Writable ∧
      (d.append clock line).logContent = d.logContent ++ lineBytes line :=
  d.settle_ahead clock (lineBytes line) .measure writable trivial
    fun n lock name same => stays ⟨n, lock, name, same⟩

theorem no_archive_past_opening (clock : Clock) (line : ByteArray) (n : Nat) (d : Directory)
    (s : Stage) (past : s = .openLog ∨ (∃ log, s = .write log) ∨ s = .done) (lock : Nat)
    (name : String) : (Stage.run clock line n (s, d)).1 ≠ .createArchive lock name := by
  induction n generalizing s d with
  | zero => rcases past with rfl | ⟨log, rfl⟩ | rfl <;> exact nofun
  | succ n ih =>
      rw [Stage.run]
      rcases past with rfl | ⟨log, rfl⟩ | rfl
      · refine ih _ _ ?_
        cases d.openFile logName clock.now with
        | none => exact .inr (.inr rfl)
        | some opened => exact .inr (.inl ⟨opened.1, rfl⟩)
      · exact ih _ .done (.inr (.inr rfl))
      · exact ih _ .done (.inr (.inr rfl))

theorem not_rotates_of_small (d : Directory) (clock : Clock) (line : String)
    (small : d.isOversized = false) : ¬d.Rotates clock line := by
  rintro ⟨n, lock, name, reached⟩
  cases n with
  | zero => cases reached
  | succ n =>
      rw [Stage.run, Stage.step, small] at reached
      exact no_archive_past_opening clock (lineBytes line) n d .openLog (.inl rfl) lock name reached

def Unrotated (d : Directory) : List (Clock × String) → Prop
  | [] => True
  | (clock, line) :: rest => ¬d.Rotates clock line ∧ (d.append clock line).Unrotated rest

theorem appendAll_append (d : Directory) (front back : List (Clock × String)) :
    d.appendAll (front ++ back) = (d.appendAll front).appendAll back := by
  induction front generalizing d with
  | nil => rfl
  | cons head rest ih => exact ih (d.append head.1 head.2)

theorem unrotated_of_small (d : Directory) (run : List (Clock × String)) (writable : d.Writable)
    (small : d.logContent.size + (textOf (run.map Prod.snd)).size ≤ logLimit) : d.Unrotated run := by
  induction run generalizing d with
  | nil => trivial
  | cons head rest ih =>
      rcases head with ⟨clock, line⟩
      have split : textOf (line :: rest.map Prod.snd) =
          lineBytes line ++ textOf (rest.map Prod.snd) := rfl
      have ended : 0 < (lineBytes line).size := by
        rw [lineBytes_ended, ByteArray.size_append]
        exact Nat.add_pos_right _ (by decide)
      rw [List.map_cons, split, ByteArray.size_append] at small
      have room : d.isOversized = false := by
        rw [← Bool.not_eq_true, d.isOversized_iff_size writable]
        omega
      have stays := d.not_rotates_of_small clock line room
      obtain ⟨next, content⟩ := d.append_of_not_rotates clock line writable stays
      refine ⟨stays, ih _ next ?_⟩
      rw [content, ByteArray.size_append]
      omega

theorem size_textOf (lines : List String) :
    (textOf lines).size = (lines.map fun line => (lineBytes line).size).sum := by
  induction lines with
  | nil => rfl
  | cons line rest ih =>
      have split : textOf (line :: rest) = lineBytes line ++ textOf rest := rfl
      rw [split, ByteArray.size_append, ih, List.map_cons, List.sum_cons]

theorem appendAll_of_unrotated (d : Directory) (run : List (Clock × String))
    (writable : d.Writable) (unrotated : d.Unrotated run) :
    (d.appendAll run).Writable ∧
      (d.appendAll run).logContent = d.logContent ++ textOf (run.map Prod.snd) := by
  induction run generalizing d with
  | nil => exact ⟨writable, ByteArray.append_empty.symm⟩
  | cons head rest ih =>
      rcases head with ⟨clock, line⟩
      obtain ⟨stays, later⟩ := unrotated
      obtain ⟨next, content⟩ := d.append_of_not_rotates clock line writable stays
      obtain ⟨last, grown⟩ := ih (d.append clock line) next later
      refine ⟨last, ?_⟩
      rw [appendAll, grown, content, ByteArray.append_assoc]
      rfl

end Directory

end ProxyCheck
