import ProxyCheck.Proofs.Journal.ArchiveName
import ProxyCheck.Proofs.Journal.Prune

/-! Pruning, entry by entry. Of all entries that are named like archives, folders counted with the
files, the files among the oldest go, until three entries are left; everything else stays. -/
namespace ProxyCheck.Directory

def named (d : Directory) (stem : String) : NamedPairs Node :=
  d.nodes.pairs.filter fun p => isArchiveName stem p.1

def older (d : Directory) (stem : String) (modified : Nat) : Nat :=
  (d.named stem).countP fun p => p.2.modified < modified

/-- No two of them have one time. -/
def Dated (d : Directory) (stem : String) : Prop :=
  ((d.named stem).map fun p => p.2.modified).Nodup

/-- A file that is named like an archive, and is among the oldest of those entries that are too many. -/
structure Excess (d : Directory) (stem name : String) (node : Node) : Prop where
  isFile : node.isFile
  named : isArchiveName stem name
  old : d.older stem node.modified < (d.named stem).length - archivesKept

theorem archives_perm_named (d : Directory) (stem : String) :
    (d.archives stem).Perm (d.named stem) :=
  List.mergeSort_perm _ _

theorem mem_named (d : Directory) (stem : String) (p : String × Node) :
    p ∈ d.named stem ↔ d.nodes.get? p.1 = some p.2 ∧ isArchiveName stem p.1 := by
  rw [← mem_archives]
  exact (d.archives_perm_named stem).mem_iff.symm

theorem ascending_archives (d : Directory) (stem : String) (dated : d.Dated stem) :
    Ascending (d.archives stem) := by
  have times : ((d.archives stem).map fun p => p.2.modified).Nodup :=
    ((d.archives_perm_named stem).map _).nodup_iff.mpr dated
  have apart : (d.archives stem).Pairwise fun p q => p.2.modified ≠ q.2.modified :=
    List.pairwise_map.mp times
  apply ((d.archives_pairwise stem).and apart).imp
  intro p q both
  exact Nat.lt_of_le_of_ne both.1 both.2

theorem mem_take_ascending (all : NamedPairs Node) (ascending : Ascending all) (p : String × Node)
    (member : p ∈ all) (few : Nat) :
    p ∈ all.take few ↔ all.countP (fun q => q.2.modified < p.2.modified) < few := by
  induction all generalizing few with
  | nil => cases member
  | cons head rest ih =>
      have later := (List.pairwise_cons.mp ascending).1
      cases few with
      | zero => simp
      | succ few =>
          rw [List.take_succ_cons, List.mem_cons, List.countP_cons]
          rcases List.mem_cons.mp member with rfl | member
          · have none : rest.countP (fun q => q.2.modified < p.2.modified) = 0 := by
              rw [List.countP_eq_zero]
              intro q inside
              have less := later q inside
              simp only [decide_eq_true_eq]
              omega
            simp [none]
          · have less := later p member
            have other : p ≠ head := by
              intro same
              rw [same] at less
              exact Nat.lt_irrefl _ less
            rw [ih (List.pairwise_cons.mp ascending).2 member few]
            simp [other, less]

theorem mem_surplus_iff (d : Directory) (stem : String) (dated : d.Dated stem) (p : String × Node) :
    p ∈ d.surplus stem ↔
      p ∈ d.named stem ∧ d.older stem p.2.modified < (d.named stem).length - archivesKept := by
  have perm := d.archives_perm_named stem
  have count : d.older stem p.2.modified =
      (d.archives stem).countP fun q => q.2.modified < p.2.modified := (perm.countP_eq _).symm
  have surplus : d.surplus stem = (d.archives stem).take ((d.named stem).length - archivesKept) := by
    rw [← perm.length_eq]
    rfl
  rw [surplus, count, ← perm.mem_iff]
  constructor
  · intro taken
    have member := List.mem_of_mem_take taken
    exact ⟨member, (mem_take_ascending _ (d.ascending_archives stem dated) p member _).mp taken⟩
  · rintro ⟨member, old⟩
    exact (mem_take_ascending _ (d.ascending_archives stem dated) p member _).mpr old

/-- The order in which a directory is listed is of no consequence. -/
theorem surplusOf_perm (d : Directory) (stem : String) (dated : d.Dated stem)
    (listing : NamedPairs Node) (perm : listing.Perm d.nodes.pairs) :
    surplusOf stem Node.modified listing = d.surplus stem := by
  have ascending := d.ascending_archives stem dated
  have shuffled : (archivesOf stem Node.modified listing).Perm (d.archives stem) :=
    ((List.mergeSort_perm _ _).trans (perm.filter _)).trans (List.mergeSort_perm _ _).symm
  have same : archivesOf stem Node.modified listing = d.archives stem := by
    apply shuffled.eq_of_pairwise _ (archivesOf_pairwise stem listing) (ascending.imp Nat.le_of_lt)
    intro p q left right less more
    exact List.inj_on_of_nodup_map (ascending_times _ ascending) (shuffled.mem_iff.mp left) right
      (Nat.le_antisymm less more)
  rw [surplusOf, same]
  rfl

theorem get?_prune_iff (d : Directory) (stem : String) (dated : d.Dated stem) (name : String)
    (node : Node) :
    (d.prune stem).nodes.get? name = some node ↔
      d.nodes.get? name = some node ∧ ¬d.Excess stem name node := by
  rw [get?_prune]
  constructor
  · intro present
    split at present
    · cases present
    · rename_i kept
      refine ⟨present, ?_⟩
      intro excess
      have member := (d.mem_named stem (name, node)).mpr ⟨present, excess.named⟩
      have surplus := (d.mem_surplus_iff stem dated (name, node)).mpr ⟨member, excess.old⟩
      have isFile : (d.file? name).isSome := by
        rw [file?, present]
        exact excess.isFile
      exact kept ⟨List.mem_map_of_mem (f := Prod.fst) surplus, isFile⟩
  · rintro ⟨present, kept⟩
    rw [if_neg, present]
    rintro ⟨gone, isFile⟩
    rcases List.mem_map.mp gone with ⟨⟨other, node'⟩, surplus, rfl⟩
    obtain ⟨member, old⟩ := (d.mem_surplus_iff stem dated _).mp surplus
    obtain ⟨there, named⟩ := (d.mem_named stem _).mp member
    rw [present] at there
    cases there
    rw [file?, present] at isFile
    exact kept ⟨isFile, named, old⟩

theorem named_prune (d : Directory) (stem : String) (dated : d.Dated stem)
    (files : ∀ p ∈ d.named stem, p.2.isFile) :
    ((d.prune stem).named stem).length = min (d.named stem).length archivesKept ∧
      ∀ p ∈ (d.prune stem).named stem, ∀ q ∈ d.named stem, q ∉ (d.prune stem).named stem →
        q.2.modified < p.2.modified := by
  have perm := d.archives_perm_named stem
  have ascending := d.ascending_archives stem dated
  have kept := d.archives_prune stem ascending fun p member => files p (perm.mem_iff.mp member)
  have left := (d.prune stem).archives_perm_named stem
  rw [kept] at left
  have split := List.take_append_drop ((d.archives stem).length - archivesKept) (d.archives stem)
  constructor
  · rw [← left.length_eq, List.length_drop, perm.length_eq]
    omega
  · intro p newest q member gone
    have late := left.mem_iff.mpr newest
    have early : q ∈ (d.archives stem).take ((d.archives stem).length - archivesKept) := by
      have whole := perm.mem_iff.mpr member
      rw [← split] at whole
      rcases List.mem_append.mp whole with early | late
      · exact early
      · exact absurd (left.mem_iff.mp late) gone
    rw [← split] at ascending
    exact (List.pairwise_append.mp ascending).2.2 q early p late

/-- Pruning removes the files among the oldest entries that are named like archives and are too many,
and nothing else, in whatever order the directory is listed. -/
theorem prune_exact (d : Directory) (dated : d.Dated logStem) :
    (∀ name node, (d.prune logStem).nodes.get? name = some node ↔
        d.nodes.get? name = some node ∧ ¬d.Excess logStem name node) ∧
      (∀ name ∈ [logName, lockName, stagingName],
        (d.prune logStem).nodes.get? name = d.nodes.get? name) ∧
      (∀ listing, listing.Perm d.nodes.pairs →
        surplusOf logStem Node.modified listing = d.surplus logStem) ∧
      ((∀ p ∈ d.named logStem, p.2.isFile) →
        ((d.prune logStem).named logStem).length = min (d.named logStem).length archivesKept ∧
          ∀ p ∈ (d.prune logStem).named logStem, ∀ q ∈ d.named logStem,
            q ∉ (d.prune logStem).named logStem → q.2.modified < p.2.modified) := by
  refine ⟨d.get?_prune_iff logStem dated, ?_, d.surplusOf_perm logStem dated,
    d.named_prune logStem dated⟩
  intro name member
  have unlike : ∀ other ∈ [logName, lockName, stagingName], isArchiveName logStem other = false := by
    decide
  exact d.get?_prune_other logStem name (unlike name member)

/-- A log beside five entries that are named like archives, the second oldest of them a folder. -/
def mixed : Directory :=
  { nodes := .ofPairs
      [("proxyprobe-debug.log", .file ⟨0, .empty, false, 6⟩),
        ("proxyprobe-debug.new.gz", .file ⟨1, .empty, true, 5⟩),
        ("proxyprobe-debug.gz", .file ⟨2, .empty, false, 1⟩),
        ("proxyprobe-debug.folder.gz", .folder 2),
        ("proxyprobe-debug.later.gz", .file ⟨3, .empty, true, 4⟩),
        ("proxyprobe-debug.20240229_120000.gz", .file ⟨4, .empty, true, 3⟩)]
    fresh := 5 }

/-- The folder counts as one of the two that are too many, and stays. -/
theorem prune_exact_mixed :
    mixed.Dated logStem ∧
      (mixed.prune logStem).nodes.get? "proxyprobe-debug.gz" = none ∧
      (mixed.prune logStem).nodes.get? "proxyprobe-debug.folder.gz" = some (.folder 2) ∧
      (mixed.prune logStem).nodes.get? "proxyprobe-debug.20240229_120000.gz" =
        some (.file ⟨4, .empty, true, 3⟩) ∧
      (mixed.prune logStem).nodes.get? logName = some (.file ⟨0, .empty, false, 6⟩) := by
  have dated : mixed.Dated logStem := by
    rw [Dated]
    decide +kernel
  have count : (mixed.named logStem).length = 5 := by decide +kernel
  obtain ⟨entries, others, -⟩ := prune_exact mixed dated
  refine ⟨dated, ?_, ?_, ?_, ?_⟩
  · rw [Option.eq_none_iff_forall_ne_some]
    intro node present
    obtain ⟨there, kept⟩ := (entries _ node).mp present
    have same : mixed.nodes.get? "proxyprobe-debug.gz" = some (.file ⟨2, .empty, false, 1⟩) := rfl
    rw [same] at there
    cases there
    refine kept ⟨rfl, by decide, ?_⟩
    rw [count]
    decide +kernel
  · refine (entries _ _).mpr ⟨rfl, ?_⟩
    intro excess
    cases excess.isFile
  · refine (entries _ _).mpr ⟨rfl, ?_⟩
    intro excess
    have old := excess.old
    rw [count] at old
    exact absurd old (by decide +kernel)
  · rw [others logName (by decide)]
    rfl

end ProxyCheck.Directory
