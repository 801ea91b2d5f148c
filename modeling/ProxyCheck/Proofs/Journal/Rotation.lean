import ProxyCheck.Proofs.Journal.Append

/-! What one append preserves of a log and its archives, and what a rotation makes of them. -/
namespace ProxyCheck

def Node.content : Node → ByteArray
  | .file f => f.content
  | .folder _ => .empty

namespace Directory

def logContent (d : Directory) : ByteArray :=
  ((d.nodes.get? logName).map Node.content).getD .empty

def unpacked (d : Directory) : List ByteArray :=
  (d.archives logStem).map fun p => p.2.content

/-- Archives that rotations have made: packed files, in the order in which they were created, each
later than those before it. -/
structure Shelved (archives : NamedPairs Node) : Prop where
  packed : ∀ p ∈ archives, ∃ f, p.2 = .file f ∧ f.packed
  created : archives.Pairwise fun p q => ∀ f g, p.2 = .file f → q.2 = .file g → f.id < g.id
  ascending : Ascending archives

theorem shelved_nil : Shelved [] :=
  ⟨fun _ member => absurd member List.not_mem_nil, List.Pairwise.nil, List.Pairwise.nil⟩

theorem shelved_drop (archives : NamedPairs Node) (n : Nat) (shelved : Shelved archives) :
    Shelved (List.drop n archives) := by
  constructor
  · intro p member
    exact shelved.packed p (List.mem_of_mem_drop member)
  · exact shelved.created.sublist (List.drop_sublist n archives)
  · exact shelved.ascending.sublist (List.drop_sublist n archives)

theorem shelved_snoc (archives : NamedPairs Node) (name : String) (f : File)
    (shelved : Shelved archives) (packed : f.packed)
    (newer : ∀ p ∈ archives, ∀ g, p.2 = .file g → g.id < f.id)
    (later : ∀ p ∈ archives, p.2.modified < f.modified) :
    Shelved (archives ++ [(name, .file f)]) := by
  constructor
  · intro p member
    rcases List.mem_append.mp member with old | new
    · exact shelved.packed p old
    · rw [List.mem_singleton.mp new]
      exact ⟨f, rfl, packed⟩
  · refine List.pairwise_append.mpr ⟨shelved.created, List.pairwise_singleton _ _, ?_⟩
    intro p old q new g h left right
    rw [List.mem_singleton.mp new] at right
    cases right
    exact newer p old g left
  · refine List.pairwise_append.mpr ⟨shelved.ascending, List.pairwise_singleton _ _, ?_⟩
    intro p old q new
    rw [List.mem_singleton.mp new]
    exact later p old

theorem shelved_files (archives : NamedPairs Node) (shelved : Shelved archives) :
    ∀ p ∈ archives, p.2.isFile := by
  intro p member
  obtain ⟨f, same, -⟩ := shelved.packed p member
  rw [same]
  rfl

theorem archive_below (d : Directory) (stem : String) (coherent : d.Coherent)
    (p : String × Node) (member : p ∈ d.archives stem) (f : File) (same : p.2 = .file f) :
    f.id < d.fresh := by
  have present := ((d.mem_archives stem p).mp member).1
  rw [same] at present
  exact coherent.files p.1 f ((d.file?_eq_some_iff p.1 f).mpr present)

theorem coherent_of_subset (d e : Directory) (coherent : d.Coherent)
    (files : ∀ name f, e.file? name = some f → d.file? name = some f)
    (locks : ∀ id ∈ e.locks, id ∈ d.locks) (fresh : e.fresh = d.fresh) : e.Coherent := by
  constructor
  · intro name f present
    rw [fresh]
    exact coherent.files name f (files name f present)
  · intro id member
    rw [fresh]
    exact coherent.locks id (locks id member)

theorem get?_rotate (d : Directory) (clock : Clock) (log : File) (lock : Nat) (other : String)
    (different : isArchiveName logStem other = false) :
    (d.rotate clock log lock).nodes.get? other =
      if other = lockName ∨ other = stagingName ∨ other = logName then none
      else d.nodes.get? other := by
  have apart := d.archive_apart clock other different
  rw [rotate, unlock]
  simp only [NameMap.get?_erase]
  rw [get?_prune_other _ logStem other different, get?_stow, if_neg apart]
  by_cases locked : other = lockName <;> simp [locked]

theorem rotate_rest (d : Directory) (clock : Clock) (log : File) (lock : Nat) :
    (d.rotate clock log lock).locks = d.locks.erase lock ∧
      (d.rotate clock log lock).fresh = d.fresh + 1 := by
  have rest := prune_rest (d.stow (d.freeArchiveName logStem clock.stamp) log clock.now) logStem
  exact ⟨congrArg (fun locks => locks.erase lock) rest.1, rest.2⟩

theorem archives_rotate (d : Directory) (clock : Clock) (log : File) (lock : Nat)
    (coherent : d.Coherent) (shelved : Shelved (d.archives logStem))
    (later : ∀ p ∈ d.archives logStem, p.2.modified < clock.now) :
    (d.rotate clock log lock).archives logStem =
        List.drop ((d.archives logStem).length + 1 - archivesKept)
          (d.archives logStem ++ [(d.freeArchiveName logStem clock.stamp,
            .file ⟨d.fresh, log.content, true, clock.now⟩)]) ∧
      Shelved ((d.rotate clock log lock).archives logStem) := by
  have absent := d.freeArchiveName_absent logStem clock.stamp
  have named := d.isArchiveName_freeArchiveName logStem clock.stamp
  rw [rotate]
  generalize d.freeArchiveName logStem clock.stamp = name at absent named ⊢
  have stowed : (d.stow name log clock.now).archives logStem =
      d.archives logStem ++ [(name, .file ⟨d.fresh, log.content, true, clock.now⟩)] := by
    rw [← d.archives_addFile logStem name ⟨d.fresh, log.content, true, clock.now⟩ named absent
      shelved.ascending later]
    apply archives_congr
    intro other archive
    have notLog := ne_of_isArchiveName logStem other logName archive logName_not_archive
    have notStaging := ne_of_isArchiveName logStem other stagingName archive stagingName_not_archive
    simp [get?_stow, notLog, notStaging]
  have longer := shelved_snoc _ name ⟨d.fresh, log.content, true, clock.now⟩ shelved rfl
    (d.archive_below logStem coherent) later
  have unlocked : ∀ e : Directory,
      archives (unlock { e with nodes := e.nodes.erase lockName } lock) logStem =
        e.archives logStem := by
    intro e
    apply archives_congr
    intro other archive
    have apart := ne_of_isArchiveName logStem other lockName archive lockName_not_archive
    rw [unlock, NameMap.get?_erase, if_neg apart]
  rw [← stowed] at longer
  have pruned := archives_prune _ logStem longer.ascending (shelved_files _ longer)
  have kept : ((d.stow name log clock.now).prune logStem).archives logStem =
      List.drop ((d.archives logStem).length + 1 - archivesKept)
        (d.archives logStem ++ [(name, .file ⟨d.fresh, log.content, true, clock.now⟩)]) := by
    rw [pruned, stowed, List.length_append, List.length_singleton]
  rw [unlocked, kept]
  rw [stowed] at longer
  exact ⟨rfl, shelved_drop _ _ longer⟩

theorem coherent_stow (d : Directory) (archive : String) (log : File) (now : Nat)
    (coherent : d.Coherent) : (d.stow archive log now).Coherent := by
  apply coherent_addFile _ archive _ _ rfl
  refine coherent_of_subset d _ coherent (fun name f present => ?_) (fun id member => member) rfl
  rw [file?_eq_some_iff, NameMap.get?_erase, NameMap.get?_erase] at present
  rw [file?_eq_some_iff]
  grind

theorem coherent_rotate (d : Directory) (clock : Clock) (log : File) (lock : Nat)
    (coherent : d.Coherent) : (d.rotate clock log lock).Coherent := by
  have stowed := d.coherent_stow (d.freeArchiveName logStem clock.stamp) log clock.now coherent
  have rest := prune_rest (d.stow (d.freeArchiveName logStem clock.stamp) log clock.now) logStem
  apply coherent_of_subset _ _ stowed
  · intro name f present
    rw [file?_eq_some_iff, rotate, unlock, NameMap.get?_erase, get?_prune] at present
    rw [file?_eq_some_iff]
    grind
  · intro id member
    rw [← rest.1]
    exact List.mem_of_mem_erase member
  · exact rest.2

structure Writable (d : Directory) : Prop where
  coherent : d.Coherent
  log : d.nodes.get? logName = none ∨ ∃ f, d.Sole logName f

theorem logContent_of_file (d : Directory) (f : File) (present : d.file? logName = some f) :
    d.logContent = f.content := by
  rw [logContent, (d.file?_eq_some_iff logName f).mp present]
  rfl

theorem isOversized_iff_size (d : Directory) (writable : d.Writable) :
    d.isOversized ↔ logLimit ≤ d.logContent.size := by
  rcases writable.log with absent | ⟨f, sole⟩
  · simp [isOversized, file?, logContent, absent, logLimit]
  · simp [isOversized, sole.present, d.logContent_of_file f sole.present]

theorem sole_put (d : Directory) (name : String) (f g : File) (sole : d.Sole name f)
    (same : g.id = f.id) : (d.put name (.file g)).Sole name g := by
  constructor
  · simp
  · intro other h present identity
    rw [file?_put] at present
    by_cases here : other = name
    · exact here
    · rw [if_neg here] at present
      exact sole.unique other h present (identity.trans same)

theorem coherent_put (d : Directory) (name : String) (f g : File) (coherent : d.Coherent)
    (present : d.file? name = some f) (same : g.id = f.id) :
    (d.put name (.file g)).Coherent := by
  constructor
  · intro other h found
    rw [file?_put] at found
    by_cases here : other = name
    · rw [if_pos here] at found
      cases found
      rw [same]
      exact coherent.files name f present
    · rw [if_neg here] at found
      exact coherent.files other h found
  · exact coherent.locks

theorem writable_addLine (d : Directory) (clock : Clock) (line : ByteArray)
    (writable : d.Writable) :
    (d.addLine clock line).Writable ∧ (d.addLine clock line).logContent = d.logContent ++ line := by
  rcases writable.log with absent | ⟨f, sole⟩
  · rw [d.addLine_absent clock line writable.coherent absent]
    refine ⟨⟨d.coherent_addFile logName _ writable.coherent rfl,
      .inr ⟨_, d.sole_addFile logName _ writable.coherent rfl⟩⟩, ?_⟩
    rw [logContent_of_file _ ⟨d.fresh, line, false, clock.now⟩ (by simp), logContent, absent]
    simp
  · rw [d.addLine_present clock line f sole]
    refine ⟨⟨d.coherent_put logName f _ writable.coherent sole.present rfl,
      .inr ⟨_, d.sole_put logName f _ sole rfl⟩⟩, ?_⟩
    rw [logContent_of_file _ { f with content := f.content ++ line, modified := clock.now } (by simp),
      d.logContent_of_file f sole.present]

theorem addLine_rest (d : Directory) (clock : Clock) (line : ByteArray) (writable : d.Writable) :
    (∀ other, other ≠ logName → (d.addLine clock line).nodes.get? other = d.nodes.get? other) ∧
      (d.addLine clock line).locks = d.locks := by
  rcases writable.log with absent | ⟨f, sole⟩
  · rw [d.addLine_absent clock line writable.coherent absent]
    exact ⟨fun other apart => by rw [get?_addFile, if_neg apart], rfl⟩
  · rw [d.addLine_present clock line f sole]
    exact ⟨fun other apart => by rw [get?_put, if_neg apart], rfl⟩

structure Resting (d : Directory) : Prop where
  coherent : d.Coherent
  free : d.LockFree
  noStaging : d.nodes.get? stagingName = none
  log : d.nodes.get? logName = none ∨ ∃ f, d.Sole logName f
  shelved : Shelved (d.archives logStem)

theorem Resting.writable (d : Directory) (resting : d.Resting) : d.Writable :=
  ⟨resting.coherent, resting.log⟩

theorem isOversized_iff (d : Directory) (resting : d.Resting) :
    d.isOversized ↔ logLimit ≤ d.logContent.size :=
  d.isOversized_iff_size (resting.writable d)

theorem archives_of_rest (d e : Directory) (name : String)
    (different : isArchiveName logStem name = false)
    (rest : ∀ other, other ≠ name → e.nodes.get? other = d.nodes.get? other) :
    e.archives logStem = d.archives logStem := by
  apply archives_congr
  intro other archive
  exact rest other (ne_of_isArchiveName logStem other name archive different)

theorem lockFree_of_rest (d e : Directory) (free : d.LockFree)
    (rest : e.nodes.get? lockName = d.nodes.get? lockName) (locks : e.locks = d.locks) :
    e.LockFree := by
  constructor
  · intro f present
    rw [file?, rest] at present
    rw [locks]
    exact free.unlocked f present
  · intro modified
    rw [rest]
    exact free.noFolder modified

theorem resting_addLine (d : Directory) (clock : Clock) (line : ByteArray) (resting : d.Resting) :
    (d.addLine clock line).Resting ∧
      (d.addLine clock line).logContent = d.logContent ++ line ∧
      (d.addLine clock line).unpacked = d.unpacked := by
  obtain ⟨next, content⟩ := d.writable_addLine clock line (resting.writable d)
  obtain ⟨rest, locks⟩ := d.addLine_rest clock line (resting.writable d)
  have archives := d.archives_of_rest _ logName logName_not_archive rest
  refine ⟨⟨next.coherent, ?_, ?_, next.log, archives ▸ resting.shelved⟩, content, ?_⟩
  · exact d.lockFree_of_rest _ resting.free (rest lockName (by decide)) locks
  · rw [rest stagingName (by decide), resting.noStaging]
  · rw [unpacked, archives, unpacked]

theorem archives_takeLock (d : Directory) (clock : Clock) (lock : Nat) :
    (d.takeLock clock lock).archives logStem = d.archives logStem :=
  d.archives_of_rest _ lockName lockName_not_archive
    fun other apart => d.get?_withLockFile clock other apart

theorem takeLock_spec (d : Directory) (clock : Clock) (lock : Nat) (resting : d.Resting) :
    (d.takeLock clock lock).archives logStem = d.archives logStem ∧
      (d.takeLock clock lock).locks.erase lock = d.locks := by
  obtain ⟨f, -, -, -, locks, -⟩ := d.withLockFile_spec clock resting.coherent resting.free
  constructor
  · exact d.archives_takeLock clock lock
  · rw [takeLock, locks, List.erase_cons_head]

theorem resting_rotate (d : Directory) (clock : Clock) (log : File) (lock : Nat)
    (resting : d.Resting) (logged : d.file? logName = some log)
    (later : ∀ p ∈ d.archives logStem, p.2.modified < clock.now)
    (coherent : (d.takeLock clock lock).Coherent) :
    ((d.takeLock clock lock).rotate clock log lock).Resting ∧
      ((d.takeLock clock lock).rotate clock log lock).logContent = .empty ∧
      ((d.takeLock clock lock).rotate clock log lock).unpacked =
        List.drop (d.unpacked.length + 1 - archivesKept) (d.unpacked ++ [d.logContent]) := by
  obtain ⟨same, unlocked⟩ := d.takeLock_spec clock lock resting
  have content := d.logContent_of_file log logged
  have archives := archives_rotate (d.takeLock clock lock) clock log lock coherent
    (same ▸ resting.shelved) (same ▸ later)
  have rest := rotate_rest (d.takeLock clock lock) clock log lock
  have gone := get?_rotate (d.takeLock clock lock) clock log lock
  have rotated := coherent_rotate (d.takeLock clock lock) clock log lock coherent
  rw [same] at archives
  generalize (d.takeLock clock lock).rotate clock log lock = e at *
  have noLock : e.nodes.get? lockName = none := by
    rw [gone lockName lockName_not_archive, if_pos (by decide)]
  have noLog : e.nodes.get? logName = none := by
    rw [gone logName logName_not_archive, if_pos (by decide)]
  refine ⟨⟨rotated, ⟨?_, ?_⟩, ?_, .inl noLog, archives.2⟩, ?_, ?_⟩
  · intro f present
    rw [file?, noLock] at present
    cases present
  · intro modified present
    rw [noLock] at present
    cases present
  · rw [gone stagingName stagingName_not_archive, if_pos (by decide)]
  · rw [logContent, noLog]
    rfl
  · rw [unpacked, archives.1, unpacked, List.map_drop, List.map_append, List.length_map, content]
    rfl

/-- What an append does to a log at rest: it adds its line, after a rotation if the log is large. -/
theorem resting_append (d : Directory) (clock : Clock) (line : String) (resting : d.Resting)
    (later : d.isOversized → ∀ p ∈ d.archives logStem, p.2.modified < clock.now) :
    (d.append clock line).Resting ∧
      ((d.append clock line).logContent =
        if logLimit ≤ d.logContent.size then lineBytes line else d.logContent ++ lineBytes line) ∧
      (d.append clock line).unpacked =
        if logLimit ≤ d.logContent.size then
          List.drop (d.unpacked.length + 1 - archivesKept) (d.unpacked ++ [d.logContent])
        else d.unpacked := by
  have oversized := d.isOversized_iff resting
  by_cases large : logLimit ≤ d.logContent.size
  · obtain ⟨log, logged⟩ : ∃ log, d.file? logName = some log := by
      rcases resting.log with absent | ⟨f, sole⟩
      · rw [logContent, absent] at large
        exact absurd large (by decide)
      · exact ⟨f, sole.present⟩
    have content := d.logContent_of_file log logged
    have noFolder (modified : Nat) : d.nodes.get? stagingName ≠ some (.folder modified) := by
      rw [resting.noStaging]
      exact nofun
    rcases d.append_large clock line log resting.coherent
      resting.free logged (content ▸ large) noFolder with ⟨lock, coherent, appended⟩
    rcases d.resting_rotate clock log lock resting logged
      (later (oversized.mpr large)) coherent with ⟨rotated, empty, kept⟩
    have added := resting_addLine _ clock (lineBytes line) rotated
    rw [appended, if_pos large, if_pos large, ← kept]
    refine ⟨added.1, ?_, added.2.2⟩
    rw [added.2.1, empty, ByteArray.empty_append]
  · have small : d.isOversized = false := by
      rw [← Bool.not_eq_true]
      exact fun big => large (oversized.mp big)
    rw [d.append_small clock line small, if_neg large, if_neg large]
    exact d.resting_addLine clock (lineBytes line) resting

end Directory

end ProxyCheck
