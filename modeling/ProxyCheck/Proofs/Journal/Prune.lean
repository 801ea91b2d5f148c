import ProxyCheck.Journal.Archive
import ProxyCheck.Proofs.Journal.Directory

/-! Which archives a directory has, from the oldest on, and which of them pruning leaves. -/
namespace ProxyCheck.Directory

def Ascending (archives : NamedPairs Node) : Prop :=
  archives.Pairwise fun p q => p.2.modified < q.2.modified

theorem mem_archives (d : Directory) (stem : String) (p : String × Node) :
    p ∈ d.archives stem ↔ d.nodes.get? p.1 = some p.2 ∧ isArchiveName stem p.1 := by
  rw [archives, archivesOf, List.mem_mergeSort, List.mem_filter, ← NameMap.mem_pairs_iff]

theorem archivesOf_pairwise (stem : String) (all : NamedPairs Node) :
    (archivesOf stem Node.modified all).Pairwise fun p q => p.2.modified ≤ q.2.modified := by
  let earlier (p q : String × Node) : Bool := decide (p.2.modified ≤ q.2.modified)
  have transitive : ∀ p q r, earlier p q → earlier q r → earlier p r := by
    intro p q r first second
    simp only [earlier, decide_eq_true_eq] at first second ⊢
    omega
  have total : ∀ p q, earlier p q || earlier q p := by
    intro p q
    simp only [earlier, Bool.or_eq_true, decide_eq_true_eq]
    omega
  have sorted := List.pairwise_mergeSort transitive total
    (all.filter fun p => isArchiveName stem p.1)
  exact sorted.imp fun order => of_decide_eq_true order

theorem archives_pairwise (d : Directory) (stem : String) :
    (d.archives stem).Pairwise fun p q => p.2.modified ≤ q.2.modified :=
  archivesOf_pairwise stem d.nodes.pairs

theorem archives_nodup (d : Directory) (stem : String) : (d.archives stem).Nodup := by
  have filtered : (d.nodes.pairs.filter fun p => isArchiveName stem p.1).Nodup :=
    (NamedPairs.sorted_nodup d.nodes.pairs d.nodes.sorted).filter _
  exact (List.mergeSort_perm _ _).nodup_iff.mpr filtered

theorem ascending_times (all : NamedPairs Node) (ascending : Ascending all) :
    (all.map fun p => p.2.modified).Nodup :=
  List.pairwise_map.mpr (ascending.imp fun less => Nat.ne_of_lt less)

theorem archives_eq (d : Directory) (stem : String) (all : NamedPairs Node)
    (members : ∀ p, p ∈ all ↔ p ∈ d.archives stem) (ascending : Ascending all) :
    d.archives stem = all := by
  have times := ascending_times all ascending
  have perm : (d.archives stem).Perm all :=
    (List.perm_ext_iff_of_nodup (d.archives_nodup stem) (List.Nodup.of_map _ times)).mpr
      fun p => (members p).symm
  apply perm.eq_of_pairwise _ (d.archives_pairwise stem) (ascending.imp Nat.le_of_lt)
  intro p q left right less more
  exact List.inj_on_of_nodup_map times ((members p).mpr left) right (Nat.le_antisymm less more)

theorem archives_congr (d e : Directory) (stem : String)
    (same : ∀ name, isArchiveName stem name → d.nodes.get? name = e.nodes.get? name) :
    d.archives stem = e.archives stem := by
  have filtered : d.nodes.pairs.filter (fun p => isArchiveName stem p.1) =
      e.nodes.pairs.filter (fun p => isArchiveName stem p.1) := by
    apply NamedPairs.eq_of_mem_iff _ _ (d.nodes.sorted.filter _) (e.nodes.sorted.filter _)
    rintro ⟨name, node⟩
    simp only [List.mem_filter, NameMap.mem_pairs_iff]
    constructor
    · rintro ⟨present, named⟩
      exact ⟨same name named ▸ present, named⟩
    · rintro ⟨present, named⟩
      exact ⟨(same name named).trans present, named⟩
  rw [archives, archivesOf, filtered, archives, archivesOf]

theorem archives_addFile (d : Directory) (stem name : String) (f : File)
    (named : isArchiveName stem name) (absent : d.nodes.get? name = none)
    (ascending : Ascending (d.archives stem))
    (later : ∀ p ∈ d.archives stem, p.2.modified < f.modified) :
    (d.addFile name f).archives stem = d.archives stem ++ [(name, .file f)] := by
  apply archives_eq
  · rintro ⟨other, node⟩
    rw [mem_archives, List.mem_append, mem_archives, List.mem_singleton, get?_addFile]
    by_cases here : other = name
    · subst here
      simp [absent, named, eq_comm]
    · simp [here]
  · apply List.pairwise_append.mpr
    refine ⟨ascending, List.pairwise_singleton _ _, ?_⟩
    intro p member q last
    rw [List.mem_singleton] at last
    rw [last]
    exact later p member

theorem get?_removeFile (d : Directory) (name other : String) :
    ((d.removeFile name).getD d).nodes.get? other =
      if other = name ∧ (d.file? other).isSome then none else d.nodes.get? other := by
  cases found : d.file? name with
  | none =>
      rw [removeFile, found, Option.map_none, Option.getD_none, if_neg]
      rintro ⟨rfl, isFile⟩
      simp [found] at isFile
  | some f =>
      rw [removeFile_present d name f found, Option.getD_some, NameMap.get?_erase]
      by_cases here : other = name
      · simp [here, found]
      · simp [here]

theorem file?_removeFile (d : Directory) (name other : String) :
    ((d.removeFile name).getD d).file? other = if other = name then none else d.file? other := by
  rw [file?, get?_removeFile]
  by_cases here : other = name
  · cases found : d.file? other with
    | none => simpa [here, file?] using found
    | some f => simp [here]
  · simp [here, file?]

theorem removeFile_rest (d : Directory) (name : String) :
    ((d.removeFile name).getD d).locks = d.locks ∧ ((d.removeFile name).getD d).fresh = d.fresh := by
  cases found : d.file? name with
  | none => simp [removeFile, found]
  | some f => simp [removeFile, found]

theorem get?_removeFiles (names : NamedPairs Node) (d : Directory) (other : String) :
    (names.foldl (fun d p => (d.removeFile p.1).getD d) d).nodes.get? other =
      if other ∈ names.map Prod.fst ∧ (d.file? other).isSome then none
      else d.nodes.get? other := by
  induction names generalizing d with
  | nil => simp
  | cons head rest ih =>
      rw [List.foldl_cons, ih, file?_removeFile, get?_removeFile]
      by_cases here : other = head.1 <;> by_cases later : other ∈ rest.map Prod.fst <;>
        by_cases isFile : (d.file? other).isSome <;> simp [here, later, isFile]

theorem removeFiles_rest (names : NamedPairs Node) (d : Directory) :
    (names.foldl (fun d p => (d.removeFile p.1).getD d) d).locks = d.locks ∧
      (names.foldl (fun d p => (d.removeFile p.1).getD d) d).fresh = d.fresh := by
  induction names generalizing d with
  | nil => exact ⟨rfl, rfl⟩
  | cons head rest ih =>
      have tail := ih ((d.removeFile head.1).getD d)
      have first := d.removeFile_rest head.1
      exact ⟨tail.1.trans first.1, tail.2.trans first.2⟩

theorem get?_prune (d : Directory) (stem other : String) :
    (d.prune stem).nodes.get? other =
      if other ∈ (d.surplus stem).map Prod.fst ∧ (d.file? other).isSome then none
      else d.nodes.get? other :=
  get?_removeFiles (d.surplus stem) d other

theorem prune_rest (d : Directory) (stem : String) :
    (d.prune stem).locks = d.locks ∧ (d.prune stem).fresh = d.fresh :=
  removeFiles_rest (d.surplus stem) d

theorem mem_surplus (d : Directory) (stem : String) (p : String × Node)
    (member : p ∈ d.surplus stem) : p ∈ d.archives stem :=
  List.mem_of_mem_take member

theorem get?_prune_other (d : Directory) (stem other : String)
    (different : isArchiveName stem other = false) :
    (d.prune stem).nodes.get? other = d.nodes.get? other := by
  have outside : other ∉ (d.surplus stem).map Prod.fst := by
    intro member
    rcases List.mem_map.mp member with ⟨p, surplus, rfl⟩
    have named := ((d.mem_archives stem p).mp (d.mem_surplus stem p surplus)).2
    rw [different] at named
    cases named
  rw [get?_prune, if_neg fun both => outside both.1]

theorem archive_names_nodup (d : Directory) (stem : String) :
    ((d.archives stem).map Prod.fst).Nodup := by
  apply (List.nodup_map_iff_inj_on (d.archives_nodup stem)).mpr
  rintro ⟨name, node⟩ left ⟨other, node'⟩ right (rfl : name = other)
  have first : d.nodes.get? name = some node := ((d.mem_archives stem _).mp left).1
  have second : d.nodes.get? name = some node' := ((d.mem_archives stem _).mp right).1
  rw [Option.some.inj (first.symm.trans second)]

theorem archives_prune (d : Directory) (stem : String) (ascending : Ascending (d.archives stem))
    (files : ∀ p ∈ d.archives stem, p.2.isFile) :
    (d.prune stem).archives stem =
      List.drop ((d.archives stem).length - archivesKept) (d.archives stem) := by
  have split : d.surplus stem ++
      List.drop ((d.archives stem).length - archivesKept) (d.archives stem) = d.archives stem :=
    List.take_append_drop _ (d.archives stem)
  generalize List.drop _ _ = kept at split ⊢
  have names := d.archive_names_nodup stem
  rw [← split, List.map_append, List.nodup_append] at names
  apply archives_eq
  · rintro ⟨name, node⟩
    rw [mem_archives, get?_prune]
    constructor
    · intro member
      have archive : (name, node) ∈ d.archives stem := by
        rw [← split]
        exact List.mem_append_right _ member
      rcases (d.mem_archives stem _).mp archive with ⟨present, named⟩
      have stays : name ∉ (d.surplus stem).map Prod.fst := fun gone =>
        names.2.2 name gone name (List.mem_map_of_mem (f := Prod.fst) member) rfl
      rw [if_neg fun both => stays both.1]
      exact ⟨present, named⟩
    · rintro ⟨present, named⟩
      split at present
      case isTrue => cases present
      case isFalse stays =>
        have archive : (name, node) ∈ d.archives stem :=
          (d.mem_archives stem _).mpr ⟨present, named⟩
        have isFile : (d.file? name).isSome := by
          rw [file?, present]
          exact files _ archive
        rw [← split] at archive
        rcases List.mem_append.mp archive with gone | member
        · exact absurd ⟨List.mem_map_of_mem (f := Prod.fst) gone, isFile⟩ stays
        · exact member
  · rw [← split] at ascending
    exact (List.pairwise_append.mp ascending).2.1

end ProxyCheck.Directory
