import ProxyCheck.Proofs.Journal.Kept
import ProxyCheck.Proofs.Journal.Late

/-! What becomes of a line when appends share a directory. Whoever writes does not have the lock: the
file that it has opened may have been moved away and packed by then, and be removed after that. -/
namespace ProxyCheck

theorem Directory.prune_of_few (d : Directory) (few : d.nodes.pairs.length ≤ archivesKept) :
    d.prune logStem = d := by
  have count : (d.archives logStem).length ≤ d.nodes.pairs.length := by
    rw [archives, archivesOf, List.length_mergeSort]
    exact List.length_filter_le _ _
  rw [prune, d.surplus_of_few (Nat.le_trans count few), List.foldl_nil]

namespace Shared

theorem run_append (s : Shared) (front back : List Turn) : s.run (front ++ back) = (s.run front).run back :=
  List.foldl_append

theorem run_alone (s : Shared) (i n : Nat) (clock : Clock) (line : String) (st : Stage)
    (here : s.writers[i]? = some ⟨line, st⟩) :
    (s.run (List.replicate n ⟨i, clock⟩)).directory =
      (Stage.run clock (lineBytes line) n (st, s.directory)).2 := by
  induction n generalizing s st with
  | zero => rfl
  | succ n ih =>
      have next : (s.advance ⟨i, clock⟩ ⟨line, st⟩).writers[i]? =
          some ⟨line, (st.step clock (lineBytes line) s.directory).1⟩ := by
        rw [writers_advance s ⟨i, clock⟩ _ here, if_pos rfl]
      rw [List.replicate_succ, run, List.foldl_cons, step_some s ⟨i, clock⟩ _ here]
      exact ih _ _ next

/-- A line is kept if the file that its append has opened is the log when it is written, or has been
moved away and waits to be packed. Otherwise nothing is left of it, though every step succeeds. And an
append that rotates where enough is named like an archive and is later leaves nothing of the log. -/
theorem saved_or_forgotten (s : Shared) (before after : List Turn) (turn : Turn) (line : String)
    (id : Nat) (runs : s.Runs (before ++ turn :: after))
    (writes : (s.run before).writers[turn.writer]? = some ⟨line, .write id⟩) :
    (∀ since, s.Few since (before ++ turn :: after) →
      ((s.run before).Timely id →
        (s.run (before ++ turn :: after)).directory.Saved (lineBytes line)) ∧
      (¬(s.run before).Timely id → ∀ t, AlikeBut turn.writer s t → t.directory = s.directory →
        (t.run (before ++ turn :: after)).directory =
          (s.run (before ++ turn :: after)).directory)) ∧
    ∀ i clock mine, after = List.replicate Stage.measure.remaining ⟨i, clock⟩ →
      (s.run (before ++ [turn])).writers[i]? = some ⟨mine, .measure⟩ →
      (s.run (before ++ [turn])).directory.Clear →
      (s.run (before ++ [turn])).directory.isOversized →
      archivesKept ≤ (((s.run (before ++ [turn])).directory.archives logStem).filter
        fun p => clock.now < p.2.modified).length →
      ∀ bytes, (s.run (before ++ turn :: after)).directory.Saved bytes →
        Within bytes (lineBytes mine) ∨ (s.run (before ++ [turn])).directory.Archived bytes := by
  constructor
  · intro since few
    have under := (underway_of_runs since s _ runs few).run before
    rw [run_append]
    constructor
    · intro timely
      have kept : ((s.run before).step turn).Kept since (lineBytes line) :=
        kept_of_timely line id writes timely
      exact saved_of_kept since _ _ (kept_run after under.step kept)
    · intro late t alike same
      have unwritten : (s.run before).stage? turn.writer ≠ some .done := by
        rw [stage?, writes]
        intro done
        cases done
      obtain ⟨alike, same⟩ := alike.run same before unwritten
      rw [run_append]
      exact forgets_run since after under.step
        (forgets_of_late since after under alike same line id writes late)
  · intro i clock mine alone here clear oversized later bytes saved
    rw [List.append_cons, run_append, alone, run_alone _ i _ clock mine .measure here] at saved
    generalize (s.run (before ++ [turn])).directory = d at *
    obtain ⟨log, logged, large⟩ := d.of_isOversized oversized
    obtain ⟨lock, found⟩ := d.saved_append_large_iff clock mine log clear logged large
    rcases (found bytes).mp saved with within | archived
    · exact .inl within
    · have old := (d.takeLock clock lock).archived_of_archived_rotate clock log lock
        ((d.archives_takeLock clock lock).symm ▸ later) bytes archived
      exact .inr ((d.archived_takeLock_iff clock lock bytes).mp old)

def Leads (s : Shared) (turns : List Turn) (t : Shared) : Prop :=
  s.Succeeds turns ∧ s.run turns = t

theorem leads_turn (front back : List Writer) (line : String) (st next : Stage) (d e : Directory)
    (clock : Clock) (rest : List Turn) (t : Shared) (ok : st.Succeeds clock d)
    (steps : st.step clock (lineBytes line) d = (next, e))
    (leads : Leads ⟨e, front ++ ⟨line, next⟩ :: back⟩ rest t) :
    Leads ⟨d, front ++ ⟨line, st⟩ :: back⟩ (⟨front.length, clock⟩ :: rest) t := by
  have here : (front ++ ⟨line, st⟩ :: back)[front.length]? = some ⟨line, st⟩ := by simp
  have first : Shared.step ⟨d, front ++ ⟨line, st⟩ :: back⟩ ⟨front.length, clock⟩ =
      ⟨e, front ++ ⟨line, next⟩ :: back⟩ := by
    rw [step_some _ _ _ here]
    simp [advance, steps]
  refine ⟨⟨fun w present => ?_, first ▸ leads.1⟩, ?_⟩
  · rw [here] at present
    cases present
    exact ok
  · rw [run, List.foldl_cons, first]
    exact leads.2

theorem leads_append (s t u : Shared) (front back : List Turn) (first : s.Leads front t)
    (second : t.Leads back u) : s.Leads (front ++ back) u := by
  induction front generalizing s with
  | nil =>
      rw [← first.2] at second
      exact second
  | cons turn rest ih =>
      obtain ⟨succeeds, ends⟩ := ih (s.step turn) ⟨first.1.2, first.2⟩
      exact ⟨⟨first.1.1, succeeds⟩, ends⟩

def noon : Clock :=
  ⟨1, "stamp", "noon"⟩

def crossing (late next : Stage) (files : NamedPairs Node) (locks : List Nat) (fresh : Nat) : Shared :=
  ⟨⟨.ofPairs files, locks, fresh⟩, [⟨"late", late⟩, ⟨"next", next⟩]⟩

def crossingStart (content : ByteArray) : Shared :=
  crossing .measure .measure [(logName, .file ⟨0, content, false, 0⟩)] [] 1

def crossingArchive : String :=
  "proxyprobe-debug.stamp.gz"

def crossingHalf (content : ByteArray) : Shared :=
  crossing (.write 0) (.dropStaging 1) [(lockName, .file ⟨1, .empty, false, 1⟩),
    (stagingName, .file ⟨0, content, false, 0⟩), (crossingArchive, .file ⟨2, content, true, 1⟩)] [1] 3

def crossingEnd (content : ByteArray) : Shared :=
  crossing .done .done [(logName, .file ⟨3, .empty ++ lineBytes "next", false, 1⟩),
    (crossingArchive, .file ⟨2, content, true, 1⟩)] [] 4

def crossingBefore : List Turn :=
  [⟨1, noon⟩, ⟨1, noon⟩, ⟨1, noon⟩, ⟨0, noon⟩, ⟨0, noon⟩, ⟨0, noon⟩, ⟨0, noon⟩, ⟨1, noon⟩, ⟨1, noon⟩,
    ⟨1, noon⟩, ⟨1, noon⟩]

def crossingAfter : List Turn :=
  List.replicate 6 ⟨1, noon⟩

section

variable (content : ByteArray)

theorem crossing_before (large : logLimit ≤ content.size) :
    (crossingStart content).Leads crossingBefore (crossingHalf content) := by
  let unlocked : Directory := ⟨.ofPairs [(logName, .file ⟨0, content, false, 0⟩)], [], 1⟩
  let locked : Directory := ⟨.ofPairs [(logName, .file ⟨0, content, false, 0⟩),
    (lockName, .file ⟨1, .empty, false, 1⟩)], [1], 2⟩
  have first : unlocked.isOversized := unlocked.isOversized_of_file ⟨0, content, false, 0⟩ rfl large
  have again : locked.isOversized := locked.isOversized_of_file ⟨0, content, false, 0⟩ rfl large
  have measured (d : Directory) (oversized : d.isOversized) (line : ByteArray) :
      Stage.measure.step noon line d = (.openLock, d) := by rw [Stage.step, if_pos oversized]
  refine leads_turn [⟨"late", _⟩] _ _ _ .openLock _ unlocked _ _ _ trivial (measured _ first _) ?_
  refine leads_turn [⟨"late", _⟩] _ _ _ (.tryLock 1) _ _ _ _ _ rfl rfl ?_
  refine leads_turn [⟨"late", _⟩] _ _ _ (.measureAgain 1) _ locked _ _ _ trivial rfl ?_
  refine leads_turn [] _ _ _ .openLock _ locked _ _ _ trivial (measured _ again _) ?_
  refine leads_turn [] _ _ _ (.tryLock 1) _ _ _ _ _ rfl rfl ?_
  refine leads_turn [] _ _ _ .openLog _ _ _ _ _ trivial rfl ?_
  refine leads_turn [] _ _ _ (.write 0) _ _ _ _ _ rfl rfl ?_
  refine leads_turn [⟨"late", _⟩] _ _ _ (.moveAway 1) _ locked _ _ _ trivial
    (by rw [Stage.step, if_pos again]) ?_
  refine leads_turn [⟨"late", _⟩] _ _ _ (.createArchive 1 crossingArchive) _ _ _ _ _ rfl rfl ?_
  refine leads_turn [⟨"late", _⟩] _ _ _ (.pack 1 2) _ _ _ _ _ rfl rfl ?_
  refine leads_turn [⟨"late", _⟩] _ _ _ (.dropStaging 1) _ _ _ _ _ rfl rfl ?_
  exact ⟨trivial, rfl⟩

theorem crossing_after :
    (crossingHalf content).Leads (⟨0, noon⟩ :: crossingAfter) (crossingEnd content) := by
  let packed : Directory := ⟨.ofPairs [(lockName, .file ⟨1, .empty, false, 1⟩),
    (crossingArchive, .file ⟨2, content, true, 1⟩)], [1], 3⟩
  let unlocked : Directory := ⟨.ofPairs [(crossingArchive, .file ⟨2, content, true, 1⟩)], [], 3⟩
  have pruned := packed.prune_of_few (Nat.le_succ 2)
  refine leads_turn [] _ _ _ .done _ _ _ _ _ trivial rfl ?_
  refine leads_turn [⟨"late", _⟩] _ _ _ (.prune 1) _ packed _ _ _ rfl rfl ?_
  refine leads_turn [⟨"late", _⟩] _ _ _ (.removeLock 1) _ packed _ _ _ trivial
    (congrArg (Prod.mk _) pruned) ?_
  refine leads_turn [⟨"late", _⟩] _ _ _ (.release 1) _ _ _ _ _ trivial rfl ?_
  refine leads_turn [⟨"late", _⟩] _ _ _ .openLog _ unlocked _ _ _ trivial rfl ?_
  refine leads_turn [⟨"late", _⟩] _ _ _ (.write 3) _ _ _ _ _ rfl rfl ?_
  refine leads_turn [⟨"late", _⟩] _ _ _ .done _ _ _ _ _ trivial rfl ?_
  exact ⟨trivial, rfl⟩

theorem crossing_few (turns : List Turn) : (crossingStart content).Few 0 turns := by
  have none : (crossingStart content).directory.recentNames 0 = [] := by
    refine List.eq_nil_iff_forall_not_mem.mpr fun name member => ?_
    obtain ⟨named, n, present, -⟩ := (Directory.mem_recentNames 0 _ name).mp member
    have absent : (crossingStart content).directory.nodes.get? name = none := by
      have apart := ne_of_isArchiveName logStem name logName named logName_not_archive
      exact (Directory.get?_addFile {} logName ⟨0, content, false, 0⟩ name).trans (if_neg apart)
    rw [absent] at present
    cases present
  have twice := (crossingStart content).rotations_le turns
  refine ⟨fun _ _ => Nat.zero_le _, ?_⟩
  rw [none]
  exact Nat.le_trans (Nat.add_le_add_left twice 0) (Nat.le_succ 2)

theorem crossing_late : ¬(crossingHalf content).Timely 0 := by
  rintro (⟨f, log, -⟩ | ⟨-, w, member, awaits⟩)
  · cases log
  · simp only [crossingHalf, crossing, List.mem_cons, List.not_mem_nil, or_false] at member
    rcases member with rfl | rfl <;> cases awaits

theorem crossing_lost (without : 108 ∉ content.data) :
    ¬(crossingEnd content).directory.Saved (lineBytes "late") := by
  have l : 108 ∈ (lineBytes "late").data := by decide +kernel
  have log : (crossingEnd content).directory.logContent = .empty ++ lineBytes "next" := rfl
  have files : (crossingEnd content).directory.nodes.pairs =
      [(logName, .file ⟨3, .empty ++ lineBytes "next", false, 1⟩),
        (crossingArchive, .file ⟨2, content, true, 1⟩)] := rfl
  intro saved
  cases saved with
  | log within =>
      rw [log] at within
      exact absurd (mem_of_within _ _ within 108 l) (by decide +kernel)
  | staging f present within => cases present
  | archive archived =>
      obtain ⟨name, f, named, present, packed, within⟩ := archived
      rw [Directory.file?_eq_some_iff, ← NameMap.mem_pairs_iff, files, List.mem_cons,
        List.mem_singleton] at present
      rcases present with same | same
      · cases same
        cases packed
      · cases same
        exact without (mem_of_within _ _ within 108 l)

theorem crossing_runs (large : logLimit ≤ content.size) :
    (crossingStart content).Runs (crossingBefore ++ ⟨0, noon⟩ :: crossingAfter) := by
  have whole := leads_append _ _ _ _ _ (crossing_before content large) (crossing_after content)
  have clear := Directory.clear_log {} ⟨0, content, false, 0⟩ Directory.unused_empty rfl
  refine ⟨clear.writable, ?_, whole.1, ?_⟩
  · simp [crossingStart, crossing]
  · rw [Finished, whole.2]
    simp [crossingEnd, crossing]

end

def longLine : String :=
  String.ofList (List.replicate logLimit 'a')

def crowded (log : File) : Directory :=
  Directory.crowd ⟨.ofPairs [(logName, .file log)], [], 1⟩

theorem clear_crowded (log : File) (first : log.id = 0) : (crowded log).Clear :=
  Directory.clear_crowd _ (Directory.clear_log {} log Directory.unused_empty first)

theorem not_archived_crowded (log : File) (bytes : ByteArray) : ¬(crowded log).Archived bytes :=
  Directory.not_archived_crowd _ (Directory.archives_log {} log Directory.unused_empty) bytes

def crowdedStart (long : String) : Shared :=
  ⟨crowded ⟨0, .empty, false, 0⟩, [⟨long, .measure⟩, ⟨"next", .measure⟩]⟩

def filled (line : ByteArray) : Directory :=
  crowded ⟨0, .empty ++ line, false, 1⟩

theorem crowded_before (long : String) :
    (crowdedStart long).Leads [⟨0, noon⟩, ⟨0, noon⟩, ⟨0, noon⟩]
      ⟨filled (lineBytes long), [⟨long, .done⟩, ⟨"next", .measure⟩]⟩ := by
  refine leads_turn [] _ _ _ .openLog _ _ _ _ _ trivial rfl ?_
  refine leads_turn [] _ _ _ (.write 0) _ _ _ _ _ rfl rfl ?_
  refine leads_turn [] _ _ _ .done _ _ _ _ _ trivial rfl ?_
  exact ⟨trivial, rfl⟩

theorem oversized_filled (long : String) (large : logLimit ≤ (lineBytes long).size) :
    (filled (lineBytes long)).isOversized := by
  refine Directory.isOversized_of_file _ ⟨0, .empty ++ lineBytes long, false, 1⟩ rfl ?_
  rw [ByteArray.empty_append]
  exact large

def crowdedPacked (line : ByteArray) : Directory :=
  let files := Directory.lookAlikes.zipIdx.map fun p =>
    (p.1, Node.file ⟨p.2 + 1, .empty, false, 9⟩)
  ⟨.ofPairs (files ++ [(lockName, .file ⟨4, .empty, false, 1⟩),
    (crossingArchive, .file ⟨5, .empty ++ line, true, 1⟩)]), [4], 6⟩

theorem leads_end (front : List Writer) (line : String) (lock : Nat) (d : Directory) (clock : Clock)
    (absent : d.nodes.get? logName = none) :
    ∃ e, Leads ⟨d, front ++ [⟨line, .removeLock lock⟩]⟩ (List.replicate 4 ⟨front.length, clock⟩)
      ⟨e, front ++ [⟨line, .done⟩]⟩ := by
  have gone : (((d.removeFile lockName).getD d).unlock lock).nodes.get? logName = none := by
    have kept := d.get?_removeFile lockName logName
    rw [if_neg fun both => absurd both.1 (by decide)] at kept
    exact kept.trans absent
  have opened := Directory.openFile_absent _ logName clock.now gone
  apply Exists.intro
  refine leads_turn front _ _ _ (.release lock) _ _ _ _ _ trivial rfl ?_
  refine leads_turn front _ _ _ .openLog _ _ _ _ _ trivial rfl ?_
  refine leads_turn front _ _ _ (.write _) _ _ _ _ _ (by rw [Stage.Succeeds, opened]; rfl)
    (by rw [Stage.step, opened]) ?_
  refine leads_turn front _ _ _ .done _ _ _ _ _ trivial rfl ?_
  exact ⟨trivial, rfl⟩

theorem crowded_after (long : String) (large : logLimit ≤ (lineBytes long).size) :
    ∃ d, Leads ⟨filled (lineBytes long), [⟨long, .done⟩, ⟨"next", .measure⟩]⟩
      (List.replicate 13 ⟨1, noon⟩) ⟨d, [⟨long, .done⟩, ⟨"next", .done⟩]⟩ := by
  let log : File := ⟨0, .empty ++ lineBytes long, false, 1⟩
  let locked : Directory :=
    { (filled (lineBytes long)).addFile lockName ⟨4, .empty, false, 1⟩ with locks := [4] }
  have size : logLimit ≤ (ByteArray.empty ++ lineBytes long).size := by
    rw [ByteArray.empty_append]
    exact large
  have first := oversized_filled long large
  have again : locked.isOversized := Directory.isOversized_of_file _ log rfl size
  have absent : ((crowdedPacked (lineBytes long)).prune logStem).nodes.get? logName = none :=
    (Directory.get?_prune_other _ logStem logName logName_not_archive).trans rfl
  obtain ⟨d, ended⟩ := leads_end [⟨long, .done⟩] "next" 4 _ noon absent
  refine ⟨d, leads_turn [⟨long, _⟩] _ _ _ .openLock _ _ _ _ _ trivial
    (by rw [Stage.step, if_pos first]) ?_⟩
  refine leads_turn [⟨long, _⟩] _ _ _ (.tryLock 4) _ _ _ _ _ rfl rfl ?_
  refine leads_turn [⟨long, _⟩] _ _ _ (.measureAgain 4) _ locked _ _ _ trivial rfl ?_
  refine leads_turn [⟨long, _⟩] _ _ _ (.moveAway 4) _ locked _ _ _ trivial
    (by rw [Stage.step, if_pos again]) ?_
  refine leads_turn [⟨long, _⟩] _ _ _ (.createArchive 4 crossingArchive) _ _ _ _ _ rfl rfl ?_
  refine leads_turn [⟨long, _⟩] _ _ _ (.pack 4 5) _ _ _ _ _ rfl rfl ?_
  refine leads_turn [⟨long, _⟩] _ _ _ (.dropStaging 4) _ _ _ _ _ rfl rfl ?_
  refine leads_turn [⟨long, _⟩] _ _ _ (.prune 4) _ (crowdedPacked (lineBytes long)) _ _ _ rfl rfl ?_
  exact leads_turn [⟨long, _⟩] _ _ _ (.removeLock 4) _ _ _ _ _ trivial rfl ended

def crowdedBefore : List Turn :=
  [⟨0, noon⟩, ⟨0, noon⟩]

theorem crowded_runs (long : String) (large : logLimit ≤ (lineBytes long).size) :
    (crowdedStart long).Runs (crowdedBefore ++ ⟨0, noon⟩ :: List.replicate 13 ⟨1, noon⟩) := by
  obtain ⟨d, after⟩ := crowded_after long large
  have whole := leads_append _ _ _ _ _ (crowded_before long) after
  refine ⟨(clear_crowded _ rfl).writable, ?_, whole.1, ?_⟩
  · simp [crowdedStart]
  · have ends : (crowdedStart long).run (crowdedBefore ++ ⟨0, noon⟩ :: List.replicate 13 ⟨1, noon⟩) =
        ⟨d, [⟨long, .done⟩, ⟨"next", .done⟩]⟩ := whole.2
    rw [Finished, ends]
    simp

theorem saved_or_forgotten_crossing :
    (crossingStart (Directory.largeFile 0).content).Runs
        (crossingBefore ++ ⟨0, noon⟩ :: crossingAfter) ∧
      ((crossingStart (Directory.largeFile 0).content).run crossingBefore).writers[0]? =
        some ⟨"late", .write 0⟩ ∧
      (crossingStart (Directory.largeFile 0).content).Few 0
        (crossingBefore ++ ⟨0, noon⟩ :: crossingAfter) ∧
      ¬((crossingStart (Directory.largeFile 0).content).run crossingBefore).Timely 0 ∧
      (∀ t, AlikeBut 0 (crossingStart (Directory.largeFile 0).content) t →
        t.directory = (crossingStart (Directory.largeFile 0).content).directory →
        (t.run (crossingBefore ++ ⟨0, noon⟩ :: crossingAfter)).directory =
          ((crossingStart (Directory.largeFile 0).content).run
            (crossingBefore ++ ⟨0, noon⟩ :: crossingAfter)).directory) ∧
      ¬((crossingStart (Directory.largeFile 0).content).run
        (crossingBefore ++ ⟨0, noon⟩ :: crossingAfter)).directory.Saved (lineBytes "late") ∧
      (crowdedStart longLine).Runs (crowdedBefore ++ ⟨0, noon⟩ :: List.replicate 13 ⟨1, noon⟩) ∧
      ((crowdedStart longLine).run crowdedBefore).writers[0]? = some ⟨longLine, .write 0⟩ ∧
      ¬((crowdedStart longLine).run
        (crowdedBefore ++ ⟨0, noon⟩ :: List.replicate 13 ⟨1, noon⟩)).directory.Saved
          (lineBytes longLine) := by
  have large := Directory.size_largeFile 0
  have without : 108 ∉ (Directory.largeFile 0).content.data := by
    rw [Directory.largeFile, Array.mem_replicate]
    exact fun here => absurd here.2 (by decide)
  generalize (Directory.largeFile 0).content = content at *
  have before := crossing_before content large
  have whole := leads_append _ _ _ _ _ before (crossing_after content)
  have late := crossing_late content
  have lost := crossing_lost content without
  rw [← before.2] at late
  rw [← whole.2] at lost
  have few := crossing_few content (crossingBefore ++ ⟨0, noon⟩ :: crossingAfter)
  have runs := crossing_runs content large
  have writes : ((crossingStart content).run crossingBefore).writers[0]? =
      some ⟨"late", .write 0⟩ := by
    rw [before.2]
    rfl
  have forgotten := (saved_or_forgotten (crossingStart content) crossingBefore crossingAfter ⟨0, noon⟩
    "late" 0 runs writes).1 0 few
  refine ⟨runs, writes, few, late, forgotten.2 late, lost, ?_⟩
  have size : logLimit ≤ (lineBytes longLine).size := by
    rw [longLine, Directory.size_lineBytes_replicate]
    exact Nat.le_succ logLimit
  generalize longLine = long at *
  have runs := crowded_runs long size
  have writes : ((crowdedStart long).run crowdedBefore).writers[0]? = some ⟨long, .write 0⟩ := rfl
  refine ⟨runs, writes, fun saved => ?_⟩
  have middle : (crowdedStart long).run (crowdedBefore ++ [⟨0, noon⟩]) =
      ⟨filled (lineBytes long), [⟨long, .done⟩, ⟨"next", .measure⟩]⟩ := (crowded_before long).2
  have found := (saved_or_forgotten (crowdedStart long) crowdedBefore (List.replicate 13 ⟨1, noon⟩)
    ⟨0, noon⟩ long 0 runs writes).2 1 noon "next" rfl
  rw [middle] at found
  rcases found rfl (clear_crowded _ rfl) (oversized_filled long size)
    (Directory.later_crowd _) _ saved with within | archived
  · have short : (lineBytes "next").size ≤ 5 := by decide +kernel
    have long := Nat.le_trans size (size_le_of_within _ _ within)
    exact absurd (Nat.le_trans long short) (by decide)
  · exact not_archived_crowded _ _ archived

end Shared

end ProxyCheck
