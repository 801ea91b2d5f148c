import ProxyCheck.Proofs.Journal.Interrupted

/-! What a rotation leaves of the archives, the one that it makes among them. Pruning goes by the
times of all entries that are named like archives, so the new archive stays if and only if fewer than
three of the others are newer. -/
namespace ProxyCheck.Directory

/-- The order that pruning goes by: the time, and for one time the name, as entries are listed. -/
def Precedes (p q : String × Node) : Prop :=
  p.2.modified < q.2.modified ∨ p.2.modified = q.2.modified ∧ p.1 < q.1

instance (p q : String × Node) : Decidable (Precedes p q) :=
  inferInstanceAs (Decidable (_ ∨ _))

/-- How many of the entries that are named like archives are newer than a name and a time. -/
def newer (d : Directory) (stem name : String) (modified : Nat) : Nat :=
  (d.archives stem).countP fun q =>
    modified < q.2.modified ∨ modified = q.2.modified ∧ name < q.1

theorem archives_of_time (d : Directory) (stem : String) (time : Nat) :
    (d.archives stem).filter (fun p => p.2.modified = time) =
      (d.nodes.pairs.filter fun p => isArchiveName stem p.1).filter (fun p => p.2.modified = time) := by
  generalize named : d.nodes.pairs.filter (fun p => isArchiveName stem p.1) = all
  have sorted : d.archives stem = all.mergeSort fun p q => p.2.modified ≤ q.2.modified := by
    rw [← named]
    rfl
  have alike : (all.filter fun p => p.2.modified = time).Pairwise
      fun p q => decide (p.2.modified ≤ q.2.modified) := by
    apply List.pairwise_of_forall_mem_list
    intro p left q right
    have first := (List.mem_filter.mp left).2
    have second := (List.mem_filter.mp right).2
    simp only [decide_eq_true_eq] at first second ⊢
    omega
  have inside : (all.filter fun p => p.2.modified = time).Sublist (d.archives stem) := by
    rw [sorted]
    apply List.sublist_mergeSort _ _ alike List.filter_sublist
    · intro p q r first second
      simp only [decide_eq_true_eq] at first second ⊢
      omega
    · intro p q
      simp only [Bool.or_eq_true, decide_eq_true_eq]
      omega
  have shorter := inside.filter fun p => decide (p.2.modified = time)
  rw [List.filter_filter] at shorter
  simp only [Bool.and_self] at shorter
  have perm : (d.archives stem).Perm all := sorted ▸ List.mergeSort_perm all _
  exact (shorter.eq_of_length ((perm.filter _).length_eq.symm)).symm

theorem archives_precedes (d : Directory) (stem : String) :
    (d.archives stem).Pairwise Precedes := by
  apply List.pairwise_iff_forall_sublist.mpr
  intro p q pair
  have order := List.pairwise_iff_forall_sublist.mp (d.archives_pairwise stem) pair
  rcases Nat.lt_or_eq_of_le order with less | same
  · exact .inl less
  · have both := pair.filter fun r => decide (r.2.modified = p.2.modified)
    rw [archives_of_time] at both
    have listed := (d.nodes.sorted.filter fun r => isArchiveName stem r.1).filter
      fun r => decide (r.2.modified = p.2.modified)
    have kept : [p, q].filter (fun r => decide (r.2.modified = p.2.modified)) = [p, q] := by
      simp [same]
    rw [kept] at both
    exact .inr ⟨same, List.pairwise_iff_forall_sublist.mp listed both⟩

theorem precedes_irrefl (p : String × Node) : ¬Precedes p p := by
  rintro (less | ⟨-, less⟩)
  · exact Nat.lt_irrefl _ less
  · exact String.lt_irrefl _ less

theorem precedes_trans (p q r : String × Node) (first : Precedes p q) (second : Precedes q r) :
    Precedes p r := by
  rcases first with less | ⟨same, less⟩ <;> rcases second with more | ⟨again, more⟩
  · exact .inl (Nat.lt_trans less more)
  · exact .inl (again ▸ less)
  · exact .inl (same ▸ more)
  · exact .inr ⟨same.trans again, String.lt_trans less more⟩

theorem newer_of_split (d : Directory) (stem : String) (p : String × Node)
    (front back : NamedPairs Node) (whole : d.archives stem = front ++ p :: back) :
    d.newer stem p.1 p.2.modified = back.length := by
  have order := d.archives_precedes stem
  rw [whole] at order
  obtain ⟨-, after, before⟩ := List.pairwise_append.mp order
  have none : front.countP (fun q => decide (Precedes p q)) = 0 := by
    apply List.countP_eq_zero.mpr
    intro q member later
    have earlier := before q member p List.mem_cons_self
    exact precedes_irrefl p (precedes_trans p q p (of_decide_eq_true later) earlier)
  have all : back.countP (fun q => decide (Precedes p q)) = back.length := by
    apply List.countP_eq_length.mpr
    intro q member
    exact decide_eq_true ((List.pairwise_cons.mp after).1 q member)
  calc d.newer stem p.1 p.2.modified
      = (front ++ p :: back).countP fun q => decide (Precedes p q) := by rw [newer, whole]; rfl
    _ = back.length := by
        rw [List.countP_append, List.countP_cons, none, all, decide_eq_false (precedes_irrefl p)]
        simp

theorem removes_iff (d : Directory) (name : String) (f : File) (present : d.file? name = some f)
    (named : isArchiveName logStem name) :
    d.Removes name ↔ archivesKept ≤ d.newer logStem name f.modified := by
  have there := (d.file?_eq_some_iff name f).mp present
  have member := (d.mem_archives logStem (name, .file f)).mpr ⟨there, named⟩
  obtain ⟨front, back, whole⟩ := List.append_of_mem member
  have behind : d.newer logStem name f.modified = back.length :=
    d.newer_of_split logStem (name, .file f) front back whole
  have names := d.archive_names_nodup logStem
  have surplus : d.surplus logStem =
      (d.archives logStem).take ((d.archives logStem).length - archivesKept) := rfl
  rw [Removes, surplus, behind, whole, List.length_append, List.length_cons]
  rw [whole, List.map_append, List.map_cons] at names
  constructor
  · intro removed
    apply Nat.le_of_not_lt
    intro few
    have early : front.length + (back.length + 1) - archivesKept ≤ front.length := by omega
    rw [List.take_append_of_le_length early] at removed
    have before := List.map_subset Prod.fst (List.take_subset _ front) removed
    exact (List.nodup_append.mp names).2.2 name before name List.mem_cons_self rfl
  · intro many
    obtain ⟨n, reaches⟩ : ∃ n,
        front.length + (back.length + 1) - archivesKept = front.length + (n + 1) :=
      ⟨back.length - archivesKept, by omega⟩
    rw [reaches, List.take_length_add_append, List.take_succ_cons, List.map_append]
    exact List.mem_append_right _ List.mem_cons_self

def newArchive (d : Directory) (clock : Clock) (log : File) : String × Node :=
  (d.freeArchiveName logStem clock.stamp, .file ⟨d.fresh, log.content, true, clock.now⟩)

theorem archives_stowed (d : Directory) (clock : Clock) (log : File) :
    ((d.stowed clock log).archives logStem).Perm (d.newArchive clock log :: d.archives logStem) := by
  have absent := d.freeArchiveName_absent logStem clock.stamp
  have named := d.isArchiveName_freeArchiveName logStem clock.stamp
  have new : d.newArchive clock log ∉ d.archives logStem := by
    intro member
    have present := ((d.mem_archives logStem _).mp member).1
    rw [newArchive, absent] at present
    cases present
  apply (List.perm_ext_iff_of_nodup (archives_nodup _ logStem)
    (List.nodup_cons.mpr ⟨new, d.archives_nodup logStem⟩)).mpr
  rintro ⟨name, node⟩
  rw [List.mem_cons, mem_archives, mem_archives, stowed, get?_stow, newArchive, Prod.mk.injEq]
  by_cases here : name = d.freeArchiveName logStem clock.stamp
  · rw [if_pos here, here, absent]
    simp [named, eq_comm]
  · rw [if_neg here]
    constructor
    · rintro ⟨present, archive⟩
      have notStaging := ne_of_isArchiveName logStem name stagingName archive stagingName_not_archive
      have notLog := ne_of_isArchiveName logStem name logName archive logName_not_archive
      rw [if_neg (not_or.mpr ⟨notStaging, notLog⟩)] at present
      exact .inr ⟨present, archive⟩
    · rintro (⟨same, -⟩ | ⟨present, archive⟩)
      · exact absurd same here
      · have notStaging := ne_of_isArchiveName logStem name stagingName archive stagingName_not_archive
        have notLog := ne_of_isArchiveName logStem name logName archive logName_not_archive
        rw [if_neg (not_or.mpr ⟨notStaging, notLog⟩)]
        exact ⟨present, archive⟩

theorem newer_stowed (d : Directory) (clock : Clock) (log : File) (p : String × Node) :
    (d.stowed clock log).newer logStem p.1 p.2.modified =
      d.newer logStem p.1 p.2.modified + if Precedes p (d.newArchive clock log) then 1 else 0 := by
  have count := (d.archives_stowed clock log).countP_eq fun q => decide (Precedes p q)
  rw [List.countP_cons] at count
  simp only [decide_eq_true_eq] at count
  exact count

theorem newer_le_newer (d : Directory) (stem : String) (p q : String × Node)
    (order : Precedes p q) :
    d.newer stem q.1 q.2.modified ≤ d.newer stem p.1 p.2.modified := by
  apply List.countP_mono_left
  intro r _ later
  simp only [decide_eq_true_eq] at later ⊢
  exact precedes_trans p q r order later

def Unpacks (d : Directory) (bytes : ByteArray) : Prop :=
  ∃ name f, isArchiveName logStem name ∧ d.file? name = some f ∧ f.packed ∧ f.content = bytes

theorem unpacks_rotate_iff (d : Directory) (clock : Clock) (log : File) (lock : Nat) :
    (d.rotate clock log lock).Unpacks log.content ↔
      d.newer logStem (d.freeArchiveName logStem clock.stamp) clock.now < archivesKept ∨
        ∃ name f, isArchiveName logStem name ∧ d.file? name = some f ∧ f.packed ∧
          f.content = log.content ∧ d.newer logStem name f.modified < archivesKept := by
  have here : (d.stowed clock log).newer logStem (d.freeArchiveName logStem clock.stamp) clock.now =
      d.newer logStem (d.freeArchiveName logStem clock.stamp) clock.now := by
    have count := d.newer_stowed clock log (d.newArchive clock log)
    rw [if_neg (precedes_irrefl _), Nat.add_zero] at count
    exact count
  have kept (name : String) (named : isArchiveName logStem name) (f : File)
      (there : (d.stowed clock log).file? name = some f) :
      (d.rotate clock log lock).file? name = some f ↔
        (d.stowed clock log).newer logStem name f.modified < archivesKept := by
    rw [file?_rotate d clock log lock name named f, removes_iff _ name f there named, Nat.not_le]
    exact and_iff_right there
  constructor
  · rintro ⟨name, f, named, present, packed, content⟩
    have there := ((d.file?_rotate clock log lock name named f).mp present).1
    have few := (kept name named f there).mp present
    rcases (d.file?_stowed clock log name named f).mp there with ⟨rfl, rfl⟩ | old
    · exact .inl (here ▸ few)
    · refine .inr ⟨name, f, named, old, packed, content, ?_⟩
      have count := d.newer_stowed clock log (name, .file f)
      exact Nat.lt_of_le_of_lt (count ▸ Nat.le_add_right _ _) few
  · intro left
    have named := d.isArchiveName_freeArchiveName logStem clock.stamp
    have new := (d.file?_stowed clock log _ named _).mpr (.inl ⟨rfl, rfl⟩)
    by_cases room : d.newer logStem (d.freeArchiveName logStem clock.stamp) clock.now < archivesKept
    · exact ⟨_, _, named, (kept _ named _ new).mpr (here.symm ▸ room), rfl, rfl⟩
    · obtain ⟨name, f, archive, old, packed, content, few⟩ := left.resolve_left room
      have there := (d.file?_stowed clock log name archive f).mpr (.inr old)
      refine ⟨name, f, archive, (kept name archive f there).mpr ?_, packed, content⟩
      have later : ¬Precedes (name, .file f) (d.newArchive clock log) := by
        intro earlier
        have more := d.newer_le_newer logStem _ _ earlier
        exact room (Nat.lt_of_le_of_lt more few)
      have count := d.newer_stowed clock log (name, .file f)
      rw [if_neg later, Nat.add_zero] at count
      exact count ▸ few

theorem newer_takeLock (d : Directory) (clock : Clock) (lock : Nat) (name : String)
    (modified : Nat) :
    (d.takeLock clock lock).newer logStem name modified = d.newer logStem name modified := by
  rw [newer, archives_takeLock, newer]

theorem freeArchiveName_takeLock (d : Directory) (clock : Clock) (lock : Nat) (stamp : String) :
    (d.takeLock clock lock).freeArchiveName logStem stamp = d.freeArchiveName logStem stamp := by
  apply freeArchiveName_congr
  intro n
  have named := isArchiveName_archiveName logStem stamp n
  exact d.get?_withLockFile clock _
    (ne_of_isArchiveName logStem _ lockName named lockName_not_archive)

theorem newer_le_dated (d : Directory) (stem name : String) (modified : Nat) :
    d.newer stem name modified ≤ (d.archives stem).countP fun p => modified ≤ p.2.modified := by
  apply List.countP_mono_left
  intro p _ later
  simp only [decide_eq_true_eq] at later ⊢
  omega

/-- A rotation keeps what it has just archived if and only if fewer than three entries that are named
like archives are newer than the new one, or an archive with the same content is left; whatever else
has such a name counts, and whatever the order of the listing is, it is enough that fewer than three
are dated at that time or after it. -/
theorem append_archives_iff (d : Directory) (clock : Clock) (line : String) (clear : d.Clear)
    (oversized : d.isOversized) :
    ((d.append clock line).Unpacks d.logContent ↔
      d.newer logStem (d.freeArchiveName logStem clock.stamp) clock.now < archivesKept ∨
        ∃ name f, isArchiveName logStem name ∧ d.file? name = some f ∧ f.packed ∧
          f.content = d.logContent ∧ d.newer logStem name f.modified < archivesKept) ∧
      ((d.archives logStem).countP (fun p => clock.now ≤ p.2.modified) < archivesKept →
        (d.append clock line).Unpacks d.logContent) := by
  obtain ⟨log, logged, large⟩ := d.of_isOversized oversized
  obtain ⟨lock, -, rest⟩ := d.append_large_rest clock line log clear logged large
  have archives := file?_of_rest _ _ logName logName_not_archive rest
  have whole : (d.append clock line).Unpacks log.content ↔
      ((d.takeLock clock lock).rotate clock log lock).Unpacks log.content := by
    constructor
    · rintro ⟨name, f, named, present, packed⟩
      exact ⟨name, f, named, (archives name named) ▸ present, packed⟩
    · rintro ⟨name, f, named, present, packed⟩
      exact ⟨name, f, named, (archives name named).symm ▸ present, packed⟩
  have kept := whole.trans ((d.takeLock clock lock).unpacks_rotate_iff clock log lock)
  simp only [newer_takeLock, freeArchiveName_takeLock] at kept
  have old (name : String) (named : isArchiveName logStem name) :=
    d.file?_takeLock clock lock name named
  have left : (d.append clock line).Unpacks log.content ↔
      d.newer logStem (d.freeArchiveName logStem clock.stamp) clock.now < archivesKept ∨
        ∃ name f, isArchiveName logStem name ∧ d.file? name = some f ∧ f.packed ∧
          f.content = log.content ∧ d.newer logStem name f.modified < archivesKept := by
    rw [kept]
    apply or_congr_right
    constructor
    · rintro ⟨name, f, named, present, packed⟩
      exact ⟨name, f, named, old name named ▸ present, packed⟩
    · rintro ⟨name, f, named, present, packed⟩
      exact ⟨name, f, named, (old name named).symm ▸ present, packed⟩
  rw [d.logContent_of_file log logged]
  refine ⟨left, fun few => left.mpr (.inl ?_)⟩
  exact Nat.lt_of_le_of_lt (d.newer_le_dated logStem _ clock.now) few

def filled (d : Directory) : Directory :=
  d.addFile logName (largeFile 0)

/-- Beside three entries that only look like archives and are dated later, the log is nowhere after
the rotation; alone, it is in its archive. -/
theorem append_archives_iff_crowded :
    (filled {}).Clear ∧ (filled {}).isOversized ∧
      ((filled {}).append ⟨1, "stamp", "noon"⟩ "").Unpacks (filled {}).logContent ∧
      (filled {}).crowd.Clear ∧ (filled {}).crowd.isOversized ∧
      ¬((filled {}).crowd.append ⟨1, "stamp", "noon"⟩ "").Unpacks (filled {}).crowd.logContent := by
  have clear : (filled {}).Clear := clear_log {} (largeFile 0) unused_empty rfl
  have none : (filled {}).archives logStem = [] := archives_log {} (largeFile 0) unused_empty
  have log : (filled {}).file? logName = some (largeFile 0) := by
    rw [filled, file?_addFile, if_pos rfl]
  generalize filled {} = d at *
  have large := isOversized_of_file _ _ log (size_largeFile 0)
  have clearCrowd := d.clear_crowd clear
  have logCrowd : d.crowd.file? logName = some (largeFile 0) := by
    rw [file?, d.get?_crowd_of_not_mem logName (by decide)]
    exact log
  have largeCrowd := isOversized_of_file _ _ logCrowd (size_largeFile 0)
  refine ⟨clear, large, ?_, clearCrowd, largeCrowd, fun left => ?_⟩
  · apply (append_archives_iff d ⟨1, "stamp", "noon"⟩ "" clear large).2
    rw [none]
    decide
  · have later := d.later_crowd
    rw [← List.countP_eq_length_filter] at later
    have answer := (append_archives_iff d.crowd ⟨1, "stamp", "noon"⟩ "" clearCrowd largeCrowd).1
    rcases answer.mp left with few | ⟨name, f, named, present, packed, -⟩
    · have many : (d.crowd.archives logStem).countP (fun p => 1 < p.2.modified) ≤
          d.crowd.newer logStem (d.crowd.freeArchiveName logStem "stamp") 1 := by
        apply List.countP_mono_left
        intro p _ more
        simp only [decide_eq_true_eq] at more ⊢
        exact .inl more
      exact absurd few (Nat.not_lt_of_le (Nat.le_trans later many))
    · exact d.not_archived_crowd none f.content
        ⟨name, f, named, present, packed, within_self f.content⟩

end ProxyCheck.Directory
