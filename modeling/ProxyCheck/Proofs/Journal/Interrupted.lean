import ProxyCheck.Proofs.Journal.History

/-! What an append keeps of a log and of a log that an interrupted rotation has left behind. -/
namespace ProxyCheck

def Within (small large : ByteArray) : Prop :=
  ∃ front back, large = front ++ small ++ back

theorem within_self (bytes : ByteArray) : Within bytes bytes :=
  ⟨.empty, .empty, by rw [ByteArray.empty_append, ByteArray.append_empty]⟩

theorem within_append (bytes more : ByteArray) : Within bytes (bytes ++ more) :=
  ⟨.empty, more, by rw [ByteArray.empty_append]⟩

theorem mem_of_within (small large : ByteArray) (within : Within small large) (b : UInt8)
    (member : b ∈ small.data) : b ∈ large.data := by
  obtain ⟨front, back, rfl⟩ := within
  simp [member]

theorem size_le_of_within (small large : ByteArray) (within : Within small large) :
    small.size ≤ large.size := by
  obtain ⟨front, back, rfl⟩ := within
  rw [ByteArray.size_append, ByteArray.size_append]
  omega

namespace Directory

def Archived (d : Directory) (bytes : ByteArray) : Prop :=
  ∃ name f, isArchiveName logStem name ∧ d.file? name = some f ∧ f.packed ∧ Within bytes f.content

/-- What there is to lose: the content of the log, and of a log on its way into an archive. -/
def Holds (d : Directory) (bytes : ByteArray) : Prop :=
  ∃ f, (d.file? logName = some f ∨ d.file? stagingName = some f) ∧ f.content = bytes

/-- Bytes that can be found in the log, on the way into an archive, or in an archive. -/
inductive Saved (d : Directory) (bytes : ByteArray) : Prop where
  | log (within : Within bytes d.logContent)
  | staging (f : File) (present : d.file? stagingName = some f) (within : Within bytes f.content)
  | archive (archived : d.Archived bytes)

theorem saved_append_small (d : Directory) (clock : Clock) (line : String) (writable : d.Writable)
    (small : d.isOversized = false) (bytes : ByteArray) (held : d.Holds bytes) :
    (d.append clock line).Saved bytes := by
  rw [d.append_small clock line small]
  obtain ⟨f, log | staging, rfl⟩ := held
  · apply Saved.log
    rw [(d.writable_addLine clock (lineBytes line) writable).2, d.logContent_of_file f log]
    exact within_append f.content (lineBytes line)
  · apply Saved.staging f
    · rw [file?, (d.addLine_rest clock (lineBytes line) writable).1 stagingName (by decide)]
      exact staging
    · exact within_self f.content

def Removes (d : Directory) (name : String) : Prop :=
  name ∈ (d.surplus logStem).map Prod.fst

theorem file?_prune (d : Directory) (name : String) (f : File) :
    (d.prune logStem).file? name = some f ↔ d.file? name = some f ∧ ¬d.Removes name := by
  rw [file?_eq_some_iff, get?_prune, file?_eq_some_iff, Removes]
  constructor
  · intro present
    split at present
    · cases present
    · rename_i kept
      have isFile : (d.file? name).isSome := by simp [file?, present, Node.file?]
      exact ⟨present, fun gone => kept ⟨gone, isFile⟩⟩
  · rintro ⟨present, kept⟩
    rw [if_neg fun both => kept both.1]
    exact present

def stowed (d : Directory) (clock : Clock) (log : File) : Directory :=
  d.stow (d.freeArchiveName logStem clock.stamp) log clock.now

theorem file?_stowed (d : Directory) (clock : Clock) (log : File) (name : String)
    (named : isArchiveName logStem name) (f : File) :
    (d.stowed clock log).file? name = some f ↔
      name = d.freeArchiveName logStem clock.stamp ∧ f = ⟨d.fresh, log.content, true, clock.now⟩ ∨
        d.file? name = some f := by
  have absent := d.freeArchiveName_absent logStem clock.stamp
  have notStaging := ne_of_isArchiveName logStem name stagingName named stagingName_not_archive
  have notLog := ne_of_isArchiveName logStem name logName named logName_not_archive
  rw [file?_eq_some_iff, file?_eq_some_iff, stowed, get?_stow]
  by_cases new : name = d.freeArchiveName logStem clock.stamp
  · simp [new, absent, eq_comm]
  · simp [new, notStaging, notLog]

theorem file?_rotate (d : Directory) (clock : Clock) (log : File) (lock : Nat) (name : String)
    (named : isArchiveName logStem name) (f : File) :
    (d.rotate clock log lock).file? name = some f ↔
      (d.stowed clock log).file? name = some f ∧ ¬(d.stowed clock log).Removes name := by
  have notLock := ne_of_isArchiveName logStem name lockName named lockName_not_archive
  rw [← file?_prune, stowed, rotate, unlock, file?_eq_some_iff, file?_eq_some_iff]
  simp only [NameMap.get?_erase, if_neg notLock]

theorem archived_rotate_iff (d : Directory) (clock : Clock) (log : File) (lock : Nat)
    (bytes : ByteArray) :
    (d.rotate clock log lock).Archived bytes ↔
      (Within bytes log.content ∧
        ¬(d.stowed clock log).Removes (d.freeArchiveName logStem clock.stamp)) ∨
      ∃ name f, isArchiveName logStem name ∧ d.file? name = some f ∧ f.packed ∧
        Within bytes f.content ∧ ¬(d.stowed clock log).Removes name := by
  constructor
  · rintro ⟨name, f, named, present, packed, within⟩
    obtain ⟨there, kept⟩ := (d.file?_rotate clock log lock name named f).mp present
    rcases (d.file?_stowed clock log name named f).mp there with ⟨rfl, rfl⟩ | old
    · exact .inl ⟨within, kept⟩
    · exact .inr ⟨name, f, named, old, packed, within, kept⟩
  · rintro (⟨within, kept⟩ | ⟨name, f, named, old, packed, within, kept⟩)
    · have named := d.isArchiveName_freeArchiveName logStem clock.stamp
      have there := (d.file?_stowed clock log _ named _).mpr (.inl ⟨rfl, rfl⟩)
      exact ⟨_, _, named, (d.file?_rotate clock log lock _ named _).mpr ⟨there, kept⟩, rfl, within⟩
    · have there := (d.file?_stowed clock log name named f).mpr (.inr old)
      exact ⟨name, f, named, (d.file?_rotate clock log lock name named f).mpr ⟨there, kept⟩, packed,
        within⟩

theorem length_archives_stowed (d : Directory) (clock : Clock) (log : File) :
    ((d.stowed clock log).archives logStem).length ≤ (d.archives logStem).length + 1 := by
  have subset : (d.stowed clock log).archives logStem ⊆
      (d.freeArchiveName logStem clock.stamp, .file ⟨d.fresh, log.content, true, clock.now⟩) ::
        d.archives logStem := by
    rintro ⟨name, node⟩ member
    obtain ⟨present, named⟩ := (mem_archives _ logStem _).mp member
    rw [List.mem_cons, mem_archives]
    rw [stowed, get?_stow] at present
    grind
  exact (List.subperm_of_subset ((d.stowed clock log).archives_nodup logStem) subset).length_le

theorem surplus_of_few (d : Directory) (few : (d.archives logStem).length ≤ archivesKept) :
    d.surplus logStem = [] := by
  have count : (d.archives logStem).length - archivesKept = 0 := by omega
  have surplus : d.surplus logStem =
      (d.archives logStem).take ((d.archives logStem).length - archivesKept) := rfl
  rw [surplus, count, List.take_zero]

theorem not_removes_of_few (d : Directory) (few : (d.archives logStem).length ≤ archivesKept)
    (name : String) : ¬d.Removes name := by
  rw [Removes, d.surplus_of_few few]
  exact List.not_mem_nil

theorem removes_of_later (d : Directory) (name : String) (node : Node)
    (present : d.nodes.get? name = some node) (named : isArchiveName logStem name)
    (later : archivesKept ≤
      ((d.archives logStem).filter fun p => node.modified < p.2.modified).length) :
    d.Removes name := by
  obtain ⟨front, back, whole⟩ := List.append_of_mem
    ((d.mem_archives logStem (name, node)).mpr ⟨present, named⟩)
  have order := d.archives_pairwise logStem
  rw [whole] at order later
  have earlier : ∀ p ∈ front ++ [(name, node)], ¬node.modified < p.2.modified := by
    intro p member
    rcases List.mem_append.mp member with first | here
    · have bound := (List.pairwise_append.mp order).2.2 p first (name, node) List.mem_cons_self
      exact Nat.not_lt_of_le bound
    · rw [List.mem_singleton.mp here]
      exact Nat.lt_irrefl _
  have long : archivesKept ≤ back.length := by
    have none : (front ++ [(name, node)]).filter (fun p => node.modified < p.2.modified) = [] :=
      List.filter_eq_nil_iff.mpr fun p member => by simpa using earlier p member
    rw [List.append_cons, List.filter_append, none, List.nil_append] at later
    exact Nat.le_trans later (List.length_filter_le _ back)
  have surplus : d.surplus logStem =
      (d.archives logStem).take ((d.archives logStem).length - archivesKept) := rfl
  obtain ⟨n, reaches⟩ : ∃ n, (d.archives logStem).length - archivesKept = front.length + (n + 1) := by
    rw [whole, List.length_append, List.length_cons]
    exact ⟨back.length - archivesKept, by omega⟩
  have member : (name, node) ∈ d.surplus logStem := by
    rw [surplus, reaches, whole, List.take_length_add_append, List.take_succ_cons]
    exact List.mem_append_right front List.mem_cons_self
  exact List.mem_map_of_mem member

theorem archived_rotate_of_few (d : Directory) (clock : Clock) (log : File) (lock : Nat)
    (few : (d.archives logStem).length < archivesKept) (bytes : ByteArray) :
    (d.rotate clock log lock).Archived bytes ↔ Within bytes log.content ∨ d.Archived bytes := by
  have kept := not_removes_of_few (d.stowed clock log)
    (Nat.le_trans (d.length_archives_stowed clock log) few)
  rw [archived_rotate_iff]
  constructor
  · rintro (⟨within, -⟩ | ⟨name, f, named, old, packed, within, -⟩)
    · exact .inl within
    · exact .inr ⟨name, f, named, old, packed, within⟩
  · rintro (within | ⟨name, f, named, old, packed, within⟩)
    · exact .inl ⟨within, kept _⟩
    · exact .inr ⟨name, f, named, old, packed, within, kept name⟩

theorem later_stowed (d : Directory) (clock : Clock) (log : File) :
    ((d.archives logStem).filter fun p => clock.now < p.2.modified).length ≤
      (((d.stowed clock log).archives logStem).filter fun p => clock.now < p.2.modified).length := by
  have absent := d.freeArchiveName_absent logStem clock.stamp
  have subset : ((d.archives logStem).filter fun p => clock.now < p.2.modified) ⊆
      ((d.stowed clock log).archives logStem).filter fun p => clock.now < p.2.modified := by
    rintro ⟨name, node⟩ member
    obtain ⟨member, later⟩ := List.mem_filter.mp member
    obtain ⟨present, named⟩ := (d.mem_archives logStem _).mp member
    refine List.mem_filter.mpr ⟨(mem_archives _ logStem _).mpr ⟨?_, named⟩, later⟩
    have apart : name ≠ d.freeArchiveName logStem clock.stamp := fun same => by
      rw [same, absent] at present
      cases present
    have notStaging := ne_of_isArchiveName logStem name stagingName named stagingName_not_archive
    have notLog := ne_of_isArchiveName logStem name logName named logName_not_archive
    rw [stowed, get?_stow, if_neg apart, if_neg (by simp [notStaging, notLog])]
    exact present
  have nodup := (d.archives_nodup logStem).filter fun p => clock.now < p.2.modified
  exact (List.subperm_of_subset nodup subset).length_le

theorem archived_of_archived_rotate (d : Directory) (clock : Clock) (log : File) (lock : Nat)
    (later : archivesKept ≤
      ((d.archives logStem).filter fun p => clock.now < p.2.modified).length)
    (bytes : ByteArray) (archived : (d.rotate clock log lock).Archived bytes) : d.Archived bytes := by
  have named := d.isArchiveName_freeArchiveName logStem clock.stamp
  have new := (d.file?_stowed clock log _ named _).mpr (.inl ⟨rfl, rfl⟩)
  have removed := removes_of_later (d.stowed clock log) _ _ ((file?_eq_some_iff _ _ _).mp new) named
    (Nat.le_trans later (d.later_stowed clock log))
  rcases (d.archived_rotate_iff clock log lock bytes).mp archived with
    ⟨-, kept⟩ | ⟨name, f, named, old, packed, within, -⟩
  · exact absurd removed kept
  · exact ⟨name, f, named, old, packed, within⟩

theorem file?_of_rest (d e : Directory) (other : String)
    (different : isArchiveName logStem other = false)
    (rest : ∀ name, name ≠ other → e.nodes.get? name = d.nodes.get? name) (name : String)
    (named : isArchiveName logStem name) : e.file? name = d.file? name := by
  rw [file?, file?, rest name (ne_of_isArchiveName logStem name other named different)]

theorem file?_takeLock (d : Directory) (clock : Clock) (lock : Nat) (name : String)
    (named : isArchiveName logStem name) :
    (d.takeLock clock lock).file? name = d.file? name :=
  d.file?_of_rest _ lockName lockName_not_archive (d.get?_withLockFile clock) name named

theorem archived_takeLock_iff (d : Directory) (clock : Clock) (lock : Nat) (bytes : ByteArray) :
    (d.takeLock clock lock).Archived bytes ↔ d.Archived bytes := by
  have same := d.file?_takeLock clock lock
  constructor
  · rintro ⟨name, f, named, present, packed, within⟩
    exact ⟨name, f, named, same name named ▸ present, packed, within⟩
  · rintro ⟨name, f, named, present, packed, within⟩
    exact ⟨name, f, named, (same name named).symm ▸ present, packed, within⟩

/-- The lock can be had, and neither the log nor the way into an archive is obstructed. -/
structure Clear (d : Directory) : Prop where
  writable : d.Writable
  free : d.LockFree
  noFolder : ∀ modified, d.nodes.get? stagingName ≠ some (.folder modified)

theorem of_isOversized (d : Directory) (oversized : d.isOversized) :
    ∃ log, d.file? logName = some log ∧ logLimit ≤ log.content.size := by
  rw [isOversized] at oversized
  cases logged : d.file? logName with
  | none =>
      rw [logged] at oversized
      cases oversized
  | some log =>
      rw [logged] at oversized
      exact ⟨log, rfl, of_decide_eq_true oversized⟩

theorem staging_of_stopped (d : Directory) (clock : Clock) (line : ByteArray) (log : File)
    (clear : d.Clear) (logged : d.file? logName = some log)
    (large : logLimit ≤ log.content.size) :
    (Stage.run clock line 5 (.measure, d)).2.file? stagingName = some log ∧
      (Stage.run clock line 5 (.measure, d)).2.nodes.get? logName = none := by
  obtain ⟨lock, -, -, -, logged, moves⟩ :=
    d.run_moveAway clock line log clear.writable.coherent clear.free logged large
  have staging := d.get?_withLockFile clock stagingName (by decide)
  have moved := (d.takeLock clock lock).rename_present logName stagingName log logged
    fun modified => staging ▸ clear.noFolder modified
  have apart : logName ≠ stagingName := by decide
  rw [Stage.run_add clock line 4 1, moves, Stage.run, Stage.step, moved]
  simp [Stage.run, file?_eq_some_iff, NameMap.get?_insert, NameMap.get?_erase, apart]

theorem append_large_rest (d : Directory) (clock : Clock) (line : String) (log : File)
    (clear : d.Clear) (logged : d.file? logName = some log)
    (large : logLimit ≤ log.content.size) :
    ∃ lock, (d.append clock line).logContent = lineBytes line ∧
      ∀ name, name ≠ logName → (d.append clock line).nodes.get? name =
        ((d.takeLock clock lock).rotate clock log lock).nodes.get? name := by
  obtain ⟨lock, coherent, appended⟩ := d.append_large clock line log clear.writable.coherent
    clear.free logged large clear.noFolder
  have gone := get?_rotate (d.takeLock clock lock) clock log lock logName logName_not_archive
  have rotated := coherent_rotate (d.takeLock clock lock) clock log lock coherent
  rw [if_pos (by decide)] at gone
  have writable : ((d.takeLock clock lock).rotate clock log lock).Writable := ⟨rotated, .inl gone⟩
  refine ⟨lock, ?_, ?_⟩
  · rw [appended, (writable_addLine _ clock (lineBytes line) writable).2, logContent, gone]
    exact ByteArray.empty_append
  · rw [appended]
    exact (addLine_rest _ clock (lineBytes line) writable).1

theorem saved_append_large_iff (d : Directory) (clock : Clock) (line : String) (log : File)
    (clear : d.Clear) (logged : d.file? logName = some log)
    (large : logLimit ≤ log.content.size) :
    ∃ lock, ∀ bytes, (d.append clock line).Saved bytes ↔
      Within bytes (lineBytes line) ∨ ((d.takeLock clock lock).rotate clock log lock).Archived bytes := by
  obtain ⟨lock, content, rest⟩ := d.append_large_rest clock line log clear logged large
  refine ⟨lock, fun bytes => ?_⟩
  have gone := get?_rotate (d.takeLock clock lock) clock log lock stagingName stagingName_not_archive
  have noStaging := (rest stagingName (by decide)).trans (gone.trans (if_pos (by decide)))
  have archives := file?_of_rest _ _ logName logName_not_archive rest
  constructor
  · intro saved
    cases saved with
    | log within => exact .inl (content ▸ within)
    | staging f present within =>
        rw [file?, noStaging] at present
        cases present
    | archive archived =>
        obtain ⟨name, f, named, present, packed, within⟩ := archived
        exact .inr ⟨name, f, named, (archives name named) ▸ present, packed, within⟩
  · rintro (within | ⟨name, f, named, present, packed, within⟩)
    · exact .log (content.symm ▸ within)
    · exact .archive ⟨name, f, named, (archives name named).symm ▸ present, packed, within⟩

/-- Where there is room for one more archive, an append keeps all that there is, unless the log is
large and another is on its way into an archive: that one is written over. And where enough is named
like an archive and is later, a rotation removes what it has just archived. -/
theorem append_saves_iff (d : Directory) (clock : Clock) (line : String) (clear : d.Clear) :
    ((d.archives logStem).length < archivesKept →
      ((∀ bytes, d.Holds bytes → (d.append clock line).Saved bytes) ↔
        (d.isOversized → ∀ f, d.file? stagingName = some f →
          Within f.content (lineBytes line) ∨ Within f.content d.logContent ∨
            d.Archived f.content))) ∧
      (d.isOversized →
        archivesKept ≤ ((d.archives logStem).filter fun p => clock.now < p.2.modified).length →
        ∀ bytes, (d.append clock line).Saved bytes →
          Within bytes (lineBytes line) ∨ d.Archived bytes) := by
  cases oversized : d.isOversized with
  | false =>
      constructor
      · intro few
        exact iff_of_true
          (fun bytes held => d.saved_append_small clock line clear.writable oversized bytes held) nofun
      · exact nofun
  | true =>
      obtain ⟨log, logged, large⟩ := d.of_isOversized oversized
      have content := d.logContent_of_file log logged
      obtain ⟨lock, saved⟩ := d.saved_append_large_iff clock line log clear logged large
      constructor
      · intro few
        have all (bytes : ByteArray) := archived_rotate_of_few (d.takeLock clock lock) clock log lock
          ((d.archives_takeLock clock lock).symm ▸ few) bytes
        simp only [d.archived_takeLock_iff] at all
        simp only [saved, all, content]
        constructor
        · intro kept _ f staging
          exact kept f.content ⟨f, .inr staging, rfl⟩
        · rintro kept bytes ⟨f, here | staging, rfl⟩
          · rw [logged] at here
            cases here
            exact .inr (.inl (within_self log.content))
          · exact kept trivial f staging
      · intro _ later bytes found
        rcases (saved bytes).mp found with within | archived
        · exact .inl within
        · have old := archived_of_archived_rotate (d.takeLock clock lock) clock log lock
            ((d.archives_takeLock clock lock).symm ▸ later) bytes archived
          exact .inr ((d.archived_takeLock_iff clock lock bytes).mp old)

theorem clear_addFile (d : Directory) (name : String) (f : File) (clear : d.Clear)
    (new : f.id = d.fresh) (notLog : name ≠ logName) (notLock : name ≠ lockName) :
    (d.addFile name f).Clear := by
  constructor
  case writable =>
    refine ⟨d.coherent_addFile name f clear.writable.coherent new, ?_⟩
    rcases clear.writable.log with absent | ⟨log, sole⟩
    · left
      rw [get?_addFile, if_neg notLog.symm, absent]
    · refine .inr ⟨log, ?_, fun other g present same => ?_⟩
      · rw [file?_addFile, if_neg notLog.symm, sole.present]
      · rw [file?_addFile] at present
        by_cases here : other = name
        · rw [if_pos here] at present
          cases present
          have below := clear.writable.coherent.files logName log sole.present
          omega
        · rw [if_neg here] at present
          exact sole.unique other g present same
  case free =>
    refine d.lockFree_of_rest _ clear.free ?_ rfl
    rw [get?_addFile, if_neg notLock.symm]
  case noFolder =>
    intro modified
    rw [get?_addFile]
    by_cases here : stagingName = name
    · rw [if_pos here]
      exact nofun
    · rw [if_neg here]
      exact clear.noFolder modified

def largeFile (id : Nat) : File :=
  ⟨id, ⟨Array.replicate logLimit 120⟩, false, 0⟩

theorem size_largeFile (id : Nat) : logLimit ≤ (largeFile id).content.size := by
  simp only [largeFile, ByteArray.size, Array.size_replicate]
  exact Nat.le_refl logLimit

def interrupted (d : Directory) : Directory :=
  (d.addFile logName (largeFile d.fresh)).addFile stagingName ⟨d.fresh + 1, ⟨#[121]⟩, false, 0⟩

theorem clear_log (d : Directory) (f : File) (unused : d.Unused) (new : f.id = d.fresh) :
    (d.addFile logName f).Clear := by
  have coherent := unused.coherent
  constructor
  case writable =>
    exact ⟨d.coherent_addFile logName f coherent new, .inr ⟨f, d.sole_addFile logName f coherent new⟩⟩
  case free =>
    refine d.lockFree_of_rest _ unused.lockFree ?_ rfl
    rw [get?_addFile, if_neg (by decide)]
  case noFolder =>
    intro modified
    rw [get?_addFile, if_neg (by decide), unused.noStaging]
    exact nofun

theorem clear_interrupted (d : Directory) (unused : d.Unused) : d.interrupted.Clear :=
  clear_addFile _ stagingName _ (d.clear_log (largeFile d.fresh) unused rfl) rfl (by decide) (by decide)

theorem log_interrupted (d : Directory) :
    d.interrupted.file? logName = some (largeFile d.fresh) := by
  rw [interrupted, file?_addFile, if_neg (by decide), file?_addFile, if_pos rfl]

theorem archives_log (d : Directory) (f : File) (unused : d.Unused) :
    (d.addFile logName f).archives logStem = [] := by
  have logged := archives_of_rest d (d.addFile logName f) logName logName_not_archive
    fun other apart => by rw [get?_addFile, if_neg apart]
  rw [logged, d.archives_unused unused]

theorem archives_interrupted (d : Directory) (unused : d.Unused) :
    d.interrupted.archives logStem = [] := by
  have staged := archives_of_rest (d.addFile logName (largeFile d.fresh)) d.interrupted stagingName
    stagingName_not_archive fun other apart => by rw [interrupted, get?_addFile, if_neg apart]
  rw [staged, d.archives_log _ unused]

/-- Names that count as names of archives, though no rotation gives them. -/
def lookAlikes : List String :=
  ["proxyprobe-debug.gz", "proxyprobe-debug.notes.gz", "proxyprobe-debug.old.gz"]

def crowd (d : Directory) : Directory :=
  lookAlikes.foldl (fun d name => d.addFile name ⟨d.fresh, .empty, false, 9⟩) d

theorem clear_crowd (d : Directory) (clear : d.Clear) : d.crowd.Clear := by
  apply clear_addFile _ "proxyprobe-debug.old.gz" _ _ rfl (by decide) (by decide)
  apply clear_addFile _ "proxyprobe-debug.notes.gz" _ _ rfl (by decide) (by decide)
  exact clear_addFile _ "proxyprobe-debug.gz" _ clear rfl (by decide) (by decide)

theorem get?_crowd_of_mem (d : Directory) (name : String) (member : name ∈ lookAlikes) :
    ∃ id, d.crowd.nodes.get? name = some (.file ⟨id, .empty, false, 9⟩) := by
  simp only [crowd, lookAlikes, List.foldl_cons, List.foldl_nil, get?_addFile]
  simp only [lookAlikes, List.mem_cons, List.not_mem_nil, or_false] at member
  rcases member with rfl | rfl | rfl
  · exact ⟨d.fresh, by simp⟩
  · exact ⟨d.fresh + 1, by simp [addFile]⟩
  · exact ⟨d.fresh + 2, by simp [addFile]⟩

theorem get?_crowd_of_not_mem (d : Directory) (name : String) (other : name ∉ lookAlikes) :
    d.crowd.nodes.get? name = d.nodes.get? name := by
  simp only [lookAlikes, List.mem_cons, List.not_mem_nil, or_false, not_or] at other
  simp only [crowd, lookAlikes, List.foldl_cons, List.foldl_nil, get?_addFile, if_neg other.1,
    if_neg other.2.1, if_neg other.2.2]

theorem later_crowd (d : Directory) :
    archivesKept ≤ ((d.crowd.archives logStem).filter fun p => 1 < p.2.modified).length := by
  have subset : lookAlikes ⊆
      ((d.crowd.archives logStem).filter fun p => 1 < p.2.modified).map Prod.fst := by
    intro name member
    obtain ⟨id, present⟩ := d.get?_crowd_of_mem name member
    have named : ∀ other ∈ lookAlikes, isArchiveName logStem other := by decide
    have archive := (mem_archives d.crowd logStem (name, _)).mpr ⟨present, named name member⟩
    have later : decide (1 < 9) := rfl
    exact List.mem_map_of_mem (List.mem_filter.mpr ⟨archive, later⟩)
  have nodup : lookAlikes.Nodup := by decide
  have few := (List.subperm_of_subset nodup subset).length_le
  rwa [List.length_map] at few

theorem not_archived_crowd (d : Directory) (none : d.archives logStem = []) (bytes : ByteArray) :
    ¬d.crowd.Archived bytes := by
  rintro ⟨name, f, named, present, packed, -⟩
  rw [file?_eq_some_iff] at present
  by_cases member : name ∈ lookAlikes
  · obtain ⟨id, there⟩ := d.get?_crowd_of_mem name member
    rw [there] at present
    cases present
    cases packed
  · rw [d.get?_crowd_of_not_mem name member] at present
    have archive := (d.mem_archives logStem (name, .file f)).mpr ⟨present, named⟩
    rw [none] at archive
    cases archive

theorem append_saves_iff_interrupted :
    (interrupted {}).Clear ∧ ((interrupted {}).archives logStem).length < archivesKept ∧
      (interrupted {}).isOversized ∧
      ¬(∀ bytes, (interrupted {}).Holds bytes →
        ((interrupted {}).append ⟨1, "stamp", "noon"⟩ "").Saved bytes) ∧
      (interrupted {}).crowd.Clear ∧ (interrupted {}).crowd.isOversized ∧
      ¬((interrupted {}).crowd.append ⟨1, "stamp", "noon"⟩ "").Saved
        (interrupted {}).crowd.logContent := by
  have clear := clear_interrupted {} unused_empty
  have none := archives_interrupted {} unused_empty
  have log := log_interrupted {}
  have staged : (interrupted {}).file? stagingName = some ⟨1, ⟨#[121]⟩, false, 0⟩ := by
    rw [interrupted, file?_addFile, if_pos rfl]
  have large := isOversized_of_file _ _ log (size_largeFile 0)
  generalize interrupted {} = d at *
  have few : (d.archives logStem).length < archivesKept := by
    rw [none]
    decide
  have clearCrowd := d.clear_crowd clear
  have logCrowd : d.crowd.file? logName = some (largeFile 0) := by
    rw [file?, d.get?_crowd_of_not_mem logName (by decide)]
    exact log
  have largeCrowd := isOversized_of_file _ _ logCrowd (size_largeFile 0)
  refine ⟨clear, few, large, fun kept => ?_, clearCrowd, largeCrowd, fun found => ?_⟩
  · have saves := (append_saves_iff d ⟨1, "stamp", "noon"⟩ "" clear).1 few
    have y : 121 ∈ (ByteArray.mk #[121]).data := by decide +kernel
    rcases saves.mp kept large _ staged with line | within | ⟨name, f, named, present, -⟩
    · exact absurd (mem_of_within _ _ line 121 y) (by decide +kernel)
    · rw [d.logContent_of_file _ log] at within
      have other := mem_of_within _ _ within 121 y
      rw [largeFile, Array.mem_replicate] at other
      exact absurd other.2 (by decide)
    · have member := (d.mem_archives logStem (name, .file f)).mpr
        ⟨(file?_eq_some_iff _ _ _).mp present, named⟩
      rw [none] at member
      cases member
  · have lost := (append_saves_iff d.crowd ⟨1, "stamp", "noon"⟩ "" clearCrowd).2 largeCrowd
      d.later_crowd d.crowd.logContent found
    rcases lost with line | archived
    · rw [d.crowd.logContent_of_file _ logCrowd] at line
      have x : 120 ∈ (largeFile 0).content.data := by
        rw [largeFile, Array.mem_replicate]
        exact ⟨by decide, rfl⟩
      exact absurd (mem_of_within _ _ line 120 x) (by decide +kernel)
    · exact d.not_archived_crowd none _ archived

end Directory

end ProxyCheck
