import ProxyCheck.Proofs.Journal.Interrupted

/-! What a step of an append can do to a directory: which files it leaves as they are, and where the
files come from that are there after it. -/
namespace ProxyCheck

namespace Directory

theorem openFile_cases (d e : Directory) (name : String) (now id : Nat)
    (opened : d.openFile name now = some (id, e)) :
    (∃ f, d.file? name = some f ∧ f.id = id ∧ e = d) ∨
      (d.nodes.get? name = none ∧ id = d.fresh ∧
        e = d.addFile name ⟨d.fresh, .empty, false, now⟩) := by
  cases found : d.nodes.get? name with
  | none =>
      rw [d.openFile_absent name now found] at opened
      cases opened
      exact .inr ⟨rfl, rfl, rfl⟩
  | some node =>
      cases node with
      | file f =>
          have present := (d.file?_eq_some_iff name f).mpr found
          rw [d.openFile_present name f now present] at opened
          cases opened
          exact .inl ⟨f, present, rfl, rfl⟩
      | folder modified =>
          rw [openFile, found] at opened
          cases opened

theorem rename_cases (d e : Directory) (old new : String) (renamed : d.rename old new = some e) :
    ∃ f, d.file? old = some f ∧ e = { d with nodes := (d.nodes.erase old).insert new (.file f) } := by
  rw [rename] at renamed
  cases found : d.file? old with
  | none =>
      rw [found] at renamed
      cases renamed
  | some f =>
      rw [found] at renamed
      simp only [Option.bind_eq_bind, Option.bind_some] at renamed
      split at renamed
      · cases renamed
      · cases renamed
        exact ⟨f, rfl, rfl⟩

theorem get?_update (d : Directory) (id : Nat) (change : File → File) (name : String) :
    (d.update id change).nodes.get? name = (d.nodes.get? name).map fun
      | .file f => .file (if f.id = id then change f else f)
      | folder => folder :=
  NameMap.get?_map _ d.nodes name

theorem file?_update (d : Directory) (id : Nat) (change : File → File) (name : String) :
    (d.update id change).file? name =
      (d.file? name).map fun f => if f.id = id then change f else f := by
  rw [file?, file?, get?_update]
  cases d.nodes.get? name with
  | none => rfl
  | some node => cases node <;> rfl

theorem node_update (d : Directory) (id : Nat) (change : File → File) (name : String) (n : Node)
    (present : (d.update id change).nodes.get? name = some n) :
    ∃ old, d.nodes.get? name = some old ∧ (old = n ∨ ∃ f, old = .file f ∧ f.id = id) := by
  rw [get?_update, Option.map_eq_some_iff] at present
  obtain ⟨old, there, same⟩ := present
  refine ⟨old, there, ?_⟩
  cases old with
  | folder modified => exact .inl same
  | file f =>
      have same : Node.file (if f.id = id then change f else f) = n := same
      by_cases here : f.id = id
      · exact .inr ⟨f, rfl, here⟩
      · rw [if_neg here] at same
        exact .inl same

theorem node_removeFile (d : Directory) (gone name : String) (n : Node)
    (present : ((d.removeFile gone).getD d).nodes.get? name = some n) :
    d.nodes.get? name = some n := by
  rw [get?_removeFile] at present
  split at present
  · cases present
  · exact present

theorem file?_rename (d : Directory) (old new other : String) (f : File) :
    file? { d with nodes := (d.nodes.erase old).insert new (.file f) } other =
      if other = new then some f else if other = old then none else d.file? other := by
  simp only [file?, NameMap.get?_insert, NameMap.get?_erase]
  split
  · rfl
  · split <;> rfl

def recentNames (since : Nat) (d : Directory) : List String :=
  (d.nodes.pairs.filter fun p => isArchiveName logStem p.1 && since ≤ p.2.modified).map Prod.fst

theorem mem_recentNames (since : Nat) (d : Directory) (name : String) :
    name ∈ d.recentNames since ↔
      isArchiveName logStem name ∧ ∃ node, d.nodes.get? name = some node ∧ since ≤ node.modified := by
  simp only [recentNames, List.mem_map, List.mem_filter, Prod.exists, NameMap.mem_pairs_iff,
    Bool.and_eq_true, decide_eq_true_eq]
  constructor
  · rintro ⟨_, node, ⟨present, named, recent⟩, rfl⟩
    exact ⟨named, node, present, recent⟩
  · rintro ⟨named, node, present, recent⟩
    exact ⟨name, node, ⟨present, named, recent⟩, rfl⟩

theorem nodup_recentNames (since : Nat) (d : Directory) : (d.recentNames since).Nodup := by
  refine (List.nodup_map_iff_inj_on ((NamedPairs.sorted_nodup _ d.nodes.sorted).filter _)).mpr ?_
  rintro ⟨name, node⟩ left ⟨other, node'⟩ right (rfl : name = other)
  have first := (NameMap.mem_pairs_iff d.nodes name node).mp (List.mem_filter.mp left).1
  have second := (NameMap.mem_pairs_iff d.nodes name node').mp (List.mem_filter.mp right).1
  rw [Option.some.inj (first.symm.trans second)]

theorem not_removes_recent (since : Nat) (d : Directory) (name : String)
    (few : (d.recentNames since).length ≤ archivesKept) (recent : name ∈ d.recentNames since) :
    ¬d.Removes name := by
  intro removed
  obtain ⟨⟨other, node⟩, surplus, rfl⟩ := List.mem_map.mp removed
  obtain ⟨named, node', present', later⟩ := (d.mem_recentNames since other).mp recent
  obtain ⟨present, -⟩ := (d.mem_archives logStem _).mp (d.mem_surplus logStem _ surplus)
  rw [present] at present'
  cases present'
  have split : d.surplus logStem ++
      List.drop ((d.archives logStem).length - archivesKept) (d.archives logStem) = d.archives logStem :=
    List.take_append_drop _ (d.archives logStem)
  have kept : archivesKept ≤
      (List.drop ((d.archives logStem).length - archivesKept) (d.archives logStem)).length := by
    have filled := List.length_pos_of_mem surplus
    have short : (d.surplus logStem).length ≤ (d.archives logStem).length - archivesKept :=
      List.length_take_le _ _
    rw [List.length_drop]
    omega
  generalize List.drop _ _ = newest at split kept
  have order := d.archives_pairwise logStem
  have names := d.archive_names_nodup logStem
  rw [← split] at order names
  rw [List.map_append, List.nodup_append] at names
  -- The newest archives are no older than the one that goes, and recent like it.
  have subset : (other :: newest.map Prod.fst) ⊆ d.recentNames since := by
    intro name' member
    rcases List.mem_cons.mp member with rfl | member
    · exact recent
    · obtain ⟨q, inside, rfl⟩ := List.mem_map.mp member
      have archive : q ∈ d.archives logStem := split ▸ List.mem_append_right _ inside
      obtain ⟨present, named⟩ := (d.mem_archives logStem q).mp archive
      have bound := (List.pairwise_append.mp order).2.2 _ surplus q inside
      exact (d.mem_recentNames since q.1).mpr ⟨named, q.2, present, Nat.le_trans later bound⟩
  have nodup : (other :: newest.map Prod.fst).Nodup := by
    refine List.nodup_cons.mpr ⟨fun inside => ?_, names.2.1⟩
    exact names.2.2 other (List.mem_map_of_mem (f := Prod.fst) surplus) other inside rfl
  have count := (List.subperm_of_subset nodup subset).length_le
  rw [List.length_cons, List.length_map] at count
  omega

end Directory

namespace Stage

/-- What a step of an append needs of the files that it has opened or is to make. -/
def Fits (since : Nat) (d : Directory) : Stage → Prop
  | .tryLock lock => lock < d.fresh
  | .createArchive _ name => isArchiveName logStem name ∧ d.nodes.get? name = none
  | .pack _ id => ∃ name f, isArchiveName logStem name ∧ d.Sole name f ∧ f.id = id ∧
      f.packed = false ∧ since ≤ f.modified
  | .write id => id < d.fresh ∧
      ∀ name f, d.file? name = some f → f.id = id → name = logName ∨ name = stagingName
  | _ => True

def Touches (since : Nat) (name : String) (f : File) : Stage → Prop
  | .moveAway _ => name = logName ∨ name = stagingName
  | .pack _ id | .write id => f.id = id
  | .dropStaging _ => name = stagingName
  | .prune _ => isArchiveName logStem name ∧ f.modified < since
  | .removeLock _ => name = lockName
  | _ => False

def rotates : Stage → Bool
  | .createArchive .. | .pack .. | .dropStaging _ => true
  | _ => false

def movesAway : Stage → Bool
  | .moveAway _ => true
  | _ => false

theorem of_movesAway (st : Stage) (moves : st.movesAway) : ∃ lock, st = .moveAway lock := by
  cases st with
  | moveAway lock => exact ⟨lock, rfl⟩
  | _ => cases moves

def creates : Stage → Bool
  | .createArchive .. => true
  | _ => false

def made? : Stage → Option String
  | .openLock => some lockName
  | .createArchive _ name => some name
  | .openLog => some logName
  | _ => none

/-- What a step makes of the directory. -/
inductive Effect (clock : Clock) (line : ByteArray) (d : Directory) : Stage → Directory → Prop where
  | rest (st : Stage) (e : Directory) (nodes : e.nodes = d.nodes) (fresh : e.fresh = d.fresh)
      (locks : ∀ id ∈ e.locks, id < d.fresh) : Effect clock line d st e
  | add (st : Stage) (name : String) (made : st.made? = some name)
      (absent : d.nodes.get? name = none) :
      Effect clock line d st (d.addFile name ⟨d.fresh, .empty, false, clock.now⟩)
  | move (lock : Nat) (f : File) (log : d.file? logName = some f) :
      Effect clock line d (.moveAway lock)
        { d with nodes := (d.nodes.erase logName).insert stagingName (.file f) }
  | pack (lock id : Nat) (content : ByteArray) :
      Effect clock line d (.pack lock id) (d.pack id content clock.now)
  | write (id : Nat) : Effect clock line d (.write id) (d.appendTo id line clock.now)
  | dropStaging (lock : Nat) :
      Effect clock line d (.dropStaging lock) ((d.removeFile stagingName).getD d)
  | prune (lock : Nat) : Effect clock line d (.prune lock) (d.prune logStem)
  | removeLock (lock : Nat) :
      Effect clock line d (.removeLock lock) ((d.removeFile lockName).getD d)

section

variable (clock : Clock) (line : ByteArray) (since : Nat) (d : Directory)

theorem effect_openFile (st : Stage) (name : String) (id : Nat) (e : Directory)
    (coherent : d.Coherent) (made : st.made? = some name)
    (opened : d.openFile name clock.now = some (id, e)) : Effect clock line d st e := by
  rcases d.openFile_cases e name clock.now id opened with ⟨f, -, -, rfl⟩ | ⟨absent, -, rfl⟩
  · exact .rest st e rfl rfl coherent.locks
  · exact .add st name made absent

theorem effect_step (st : Stage) (coherent : d.Coherent) (fits : st.Fits since d) :
    Effect clock line d st (st.step clock line d).2 := by
  have idle (st : Stage) : Effect clock line d st d := .rest st d rfl rfl coherent.locks
  cases st with
  | measure => exact idle _
  | openLock =>
      rw [step]
      cases opened : d.openFile lockName clock.now with
      | none => exact idle _
      | some result =>
          exact effect_openFile clock line d _ lockName result.1 result.2 coherent rfl opened
  | tryLock lock =>
      rw [step, Directory.lock]
      split <;> rename_i taken <;> split at taken <;> cases taken
      · refine .rest _ _ rfl rfl fun id member => ?_
        rcases List.mem_cons.mp member with rfl | member
        · exact fits
        · exact coherent.locks id member
      · exact idle _
  | measureAgain lock => exact idle _
  | moveAway lock =>
      rw [step]
      cases renamed : d.rename logName stagingName with
      | none => exact idle _
      | some e =>
          obtain ⟨f, log, rfl⟩ := d.rename_cases e logName stagingName renamed
          exact .move lock f log
  | createArchive lock name =>
      rw [step, d.createFile_absent name clock.now coherent fits.2]
      exact .add _ name rfl fits.2
  | pack lock id =>
      rw [step]
      split <;> exact .pack lock id _
  | dropStaging lock =>
      have effect : Effect clock line d (.dropStaging lock) ((d.removeFile stagingName).getD d) :=
        .dropStaging lock
      rw [step]
      cases removed : d.removeFile stagingName with
      | none => exact idle _
      | some e =>
          rw [removed] at effect
          exact effect
  | prune lock => exact .prune lock
  | removeLock lock => exact .removeLock lock
  | release lock =>
      exact .rest _ _ rfl rfl fun id member => coherent.locks id (List.mem_of_mem_erase member)
  | openLog =>
      rw [step]
      cases opened : d.openFile logName clock.now with
      | none => exact idle _
      | some result =>
          exact effect_openFile clock line d _ logName result.1 result.2 coherent rfl opened
  | write id => exact .write id
  | done => exact idle _

end

namespace Effect

variable {clock : Clock} {line : ByteArray} {since : Nat} {d e : Directory} {st : Stage}

theorem fresh_le (effect : Effect clock line d st e) : d.fresh ≤ e.fresh := by
  cases effect with
  | rest _ _ _ fresh _ => exact Nat.le_of_eq fresh.symm
  | add => exact Nat.le_succ d.fresh
  | move | pack | write => exact Nat.le_refl d.fresh
  | dropStaging | removeLock => exact Nat.le_of_eq (d.removeFile_rest _).2.symm
  | prune => exact Nat.le_of_eq (d.prune_rest logStem).2.symm

theorem untouched (effect : Effect clock line d st e) (name : String) (f : File)
    (few : (d.recentNames since).length ≤ archivesKept) (present : d.file? name = some f)
    (untouched : ¬st.Touches since name f) : e.file? name = some f := by
  cases effect with
  | rest _ _ nodes _ _ =>
      rw [Directory.file?, nodes]
      exact present
  | add _ new made absent =>
      have other : name ≠ new := by
        rintro rfl
        rw [Directory.file?_eq_some_iff, absent] at present
        cases present
      rw [Directory.file?_addFile, if_neg other, present]
  | move lock g log =>
      rw [Touches, not_or] at untouched
      rw [Directory.file?_rename, if_neg untouched.2, if_neg untouched.1, present]
  | pack lock id content =>
      have other : f.id ≠ id := untouched
      rw [Directory.pack, Directory.file?_update, present, Option.map_some, if_neg other]
  | write id =>
      have other : f.id ≠ id := untouched
      rw [Directory.appendTo, Directory.file?_update, present, Option.map_some, if_neg other]
  | dropStaging lock =>
      have other : name ≠ stagingName := untouched
      rw [Directory.file?_removeFile, if_neg other, present]
  | prune lock =>
      refine (d.file?_prune name f).mpr ⟨present, fun removed => ?_⟩
      by_cases named : isArchiveName logStem name
      · have recent : since ≤ f.modified := Nat.le_of_not_lt fun old => untouched ⟨named, old⟩
        exact d.not_removes_recent since name few ((d.mem_recentNames since name).mpr
          ⟨named, .file f, (d.file?_eq_some_iff name f).mp present, recent⟩) removed
      · obtain ⟨p, surplus, rfl⟩ := List.mem_map.mp removed
        exact named ((d.mem_archives logStem p).mp (d.mem_surplus logStem p surplus)).2
  | removeLock lock =>
      have other : name ≠ lockName := untouched
      rw [Directory.file?_removeFile, if_neg other, present]

end Effect

inductive Origin (st : Stage) (d e : Directory) (name : String) (id : Nat) : Prop where
  | same (f : File) (present : d.file? name = some f) (identity : f.id = id)
  | moved (f : File) (moves : st.movesAway) (log : d.file? logName = some f) (identity : f.id = id)
      (staging : name = stagingName) (gone : e.file? logName = none)
  | new (made : st.made? = some name) (identity : id = d.fresh) (fresh : d.fresh < e.fresh)

theorem origin_update (st : Stage) (d : Directory) (id : Nat) (change : File → File) (name : String)
    (g : File) (keeps : ∀ f, (change f).id = f.id)
    (present : (d.update id change).file? name = some g) :
    Origin st d (d.update id change) name g.id := by
  rw [Directory.file?_update, Option.map_eq_some_iff] at present
  obtain ⟨f, present, rfl⟩ := present
  refine .same f present ?_
  split
  · exact (keeps f).symm
  · rfl

theorem origin_removeFile (st : Stage) (d : Directory) (gone name : String) (g : File)
    (present : ((d.removeFile gone).getD d).file? name = some g) :
    Origin st d ((d.removeFile gone).getD d) name g.id := by
  rw [Directory.file?_removeFile] at present
  split at present
  · cases present
  · exact .same g present rfl

theorem Effect.origin {clock : Clock} {line : ByteArray} {d e : Directory} {st : Stage}
    (effect : Effect clock line d st e) (name : String) (g : File) (present : e.file? name = some g) :
    Origin st d e name g.id := by
  cases effect with
  | rest _ _ nodes _ _ =>
      rw [Directory.file?, nodes] at present
      exact .same g present rfl
  | add _ new made absent =>
      rw [Directory.file?_addFile] at present
      by_cases here : name = new
      · rw [if_pos here] at present
        cases present
        exact .new (here ▸ made) rfl (Nat.lt_succ_self d.fresh)
      · rw [if_neg here] at present
        exact .same g present rfl
  | move lock f log =>
      rw [Directory.file?_rename] at present
      by_cases staging : name = stagingName
      · rw [if_pos staging] at present
        cases present
        refine .moved _ rfl log rfl staging ?_
        rw [Directory.file?_rename, if_neg (by decide), if_pos rfl]
      · rw [if_neg staging] at present
        split at present
        · cases present
        · exact .same g present rfl
  | pack lock id content => exact origin_update _ d id _ name g (fun _ => rfl) present
  | write id => exact origin_update _ d id _ name g (fun _ => rfl) present
  | dropStaging lock => exact origin_removeFile _ d stagingName name g present
  | prune lock => exact .same g ((d.file?_prune name g).mp present).1 rfl
  | removeLock lock => exact origin_removeFile _ d lockName name g present

namespace Effect

variable {clock : Clock} {line : ByteArray} {since : Nat} {d e : Directory} {st : Stage}

theorem coherent (effect : Effect clock line d st e) (coherent : d.Coherent) : e.Coherent := by
  constructor
  · intro name g present
    cases effect.origin name g present with
    | same f there identity =>
        have below := coherent.files name f there
        have grown := effect.fresh_le
        omega
    | moved f moves log identity staging gone =>
        have below := coherent.files logName f log
        have grown := effect.fresh_le
        omega
    | new made identity fresh => exact identity ▸ fresh
  · have grown := effect.fresh_le
    have old : ∀ id ∈ d.locks, id < e.fresh := fun id member =>
      Nat.lt_of_lt_of_le (coherent.locks id member) grown
    cases effect with
    | rest _ _ _ _ locks => exact fun id member => Nat.lt_of_lt_of_le (locks id member) grown
    | add | move | pack | write => exact old
    | dropStaging | removeLock =>
        rw [(d.removeFile_rest _).1]
        exact old
    | prune =>
        rw [(d.prune_rest logStem).1]
        exact old

theorem sole_log (effect : Effect clock line d st e) (coherent : d.Coherent)
    (sole : ∀ f, d.file? logName = some f → d.Sole logName f) (f : File)
    (log : e.file? logName = some f) : e.Sole logName f := by
  refine ⟨log, fun name g present shared => ?_⟩
  cases effect.origin logName f log with
  | same f' log' identity =>
      have below := coherent.files logName f' log'
      cases effect.origin name g present with
      | same g' present' identity' =>
          exact (sole f' log').unique name g' present' (by omega)
      | moved _ _ _ _ _ gone =>
          rw [log] at gone
          cases gone
      | new _ fresh _ => omega
  | moved _ _ _ _ staging _ => exact absurd staging (by decide)
  | new made fresh _ =>
      cases effect.origin name g present with
      | same g' present' identity' =>
          have below := coherent.files name g' present'
          omega
      | moved _ _ _ _ _ gone =>
          rw [log] at gone
          cases gone
      | new made' _ _ => exact Option.some.inj (made'.symm.trans made)

theorem node (effect : Effect clock line d st e) (name : String) (n : Node)
    (present : e.nodes.get? name = some n) :
    (∃ old, d.nodes.get? name = some old ∧
      (old = n ∨ ∃ f, old = .file f ∧ (st = .write f.id ∨ ∃ lock, st = .pack lock f.id))) ∨
      st.made? = some name ∨ name = stagingName := by
  cases effect with
  | rest _ _ nodes _ _ => exact .inl ⟨n, nodes ▸ present, .inl rfl⟩
  | add _ new made absent =>
      rw [Directory.get?_addFile] at present
      by_cases here : name = new
      · exact .inr (.inl (here ▸ made))
      · rw [if_neg here] at present
        exact .inl ⟨n, present, .inl rfl⟩
  | move lock f log =>
      rw [NameMap.get?_insert, NameMap.get?_erase] at present
      by_cases staging : name = stagingName
      · exact .inr (.inr staging)
      · rw [if_neg staging] at present
        split at present
        · cases present
        · exact .inl ⟨n, present, .inl rfl⟩
  | pack lock id content =>
      obtain ⟨old, there, same | ⟨f, file, rfl⟩⟩ := d.node_update id _ name n present
      · exact .inl ⟨old, there, .inl same⟩
      · exact .inl ⟨old, there, .inr ⟨f, file, .inr ⟨lock, rfl⟩⟩⟩
  | write id =>
      obtain ⟨old, there, same | ⟨f, file, rfl⟩⟩ := d.node_update id _ name n present
      · exact .inl ⟨old, there, .inl same⟩
      · exact .inl ⟨old, there, .inr ⟨f, file, .inl rfl⟩⟩
  | dropStaging lock => exact .inl ⟨n, d.node_removeFile stagingName name n present, .inl rfl⟩
  | prune lock =>
      rw [Directory.get?_prune] at present
      split at present
      · cases present
      · exact .inl ⟨n, present, .inl rfl⟩
  | removeLock lock => exact .inl ⟨n, d.node_removeFile lockName name n present, .inl rfl⟩

theorem absent (effect : Effect clock line d st e) (name : String)
    (named : isArchiveName logStem name) (other : st.made? ≠ some name)
    (absent : d.nodes.get? name = none) : e.nodes.get? name = none := by
  cases present : e.nodes.get? name with
  | none => rfl
  | some n =>
      rcases effect.node name n present with ⟨old, there, -⟩ | made | staging
      · rw [absent] at there
        cases there
      · exact absurd made other
      · exact absurd staging (ne_of_isArchiveName logStem name stagingName named stagingName_not_archive)

theorem recent (effect : Effect clock line d st e) (fits : st.Fits since d) (name : String)
    (member : name ∈ e.recentNames since) : name ∈ d.recentNames since ∨ st.made? = some name := by
  obtain ⟨named, n, present, later⟩ := (e.mem_recentNames since name).mp member
  rw [Directory.mem_recentNames]
  rcases effect.node name n present with ⟨old, there, rfl | ⟨f, rfl, rfl | ⟨lock, rfl⟩⟩⟩ | made | staging
  · exact .inl ⟨named, old, there, later⟩
  · rcases fits.2 name f ((d.file?_eq_some_iff name f).mpr there) rfl with rfl | rfl
    · rw [logName_not_archive] at named
      cases named
    · rw [stagingName_not_archive] at named
      cases named
  · obtain ⟨archive, g, _, sole, same, _, since⟩ := fits
    have here := sole.unique name f ((d.file?_eq_some_iff name f).mpr there) same.symm
    have archived := sole.present
    rw [← here, (d.file?_eq_some_iff name f).mpr there] at archived
    cases archived
    exact .inl ⟨named, .file f, there, since⟩
  · exact .inr made
  · exact absurd staging (ne_of_isArchiveName logStem name stagingName named stagingName_not_archive)

end Effect

theorem created_of_made (st : Stage) (name : String) (made : st.made? = some name)
    (named : isArchiveName logStem name) : ∃ lock, st = .createArchive lock name := by
  cases st with
  | createArchive lock new =>
      cases made
      exact ⟨lock, rfl⟩
  | openLock =>
      cases made
      rw [lockName_not_archive] at named
      cases named
  | openLog =>
      cases made
      rw [logName_not_archive] at named
      cases named
  | _ => cases made

theorem Effect.length_recent {clock : Clock} {line : ByteArray} {since : Nat} {d e : Directory}
    {st : Stage} (effect : Effect clock line d st e) (fits : st.Fits since d) :
    (e.recentNames since).length ≤ (d.recentNames since).length + st.creates.toNat := by
  have nodup := e.nodup_recentNames since
  cases creates : st.creates with
  | true =>
      obtain ⟨lock, new, rfl⟩ : ∃ lock new, st = .createArchive lock new := by
        cases st <;> first | exact ⟨_, _, rfl⟩ | cases creates
      have subset : e.recentNames since ⊆ new :: d.recentNames since := by
        intro name member
        rcases effect.recent fits name member with old | made
        · exact List.mem_cons_of_mem new old
        · cases made
          exact List.mem_cons_self
      exact (List.subperm_of_subset nodup subset).length_le
  | false =>
      have subset : e.recentNames since ⊆ d.recentNames since := by
        intro name member
        refine (effect.recent fits name member).resolve_right fun made => ?_
        obtain ⟨lock, rfl⟩ := st.created_of_made name made ((e.mem_recentNames since name).mp member).1
        cases creates
      exact (List.subperm_of_subset nodup subset).length_le

theorem not_touches_archive (st : Stage) (since : Nat) (d : Directory) (name : String) (f : File)
    (fits : st.Fits since d) (named : isArchiveName logStem name) (present : d.file? name = some f)
    (recent : since ≤ f.modified) (made : ∀ lock, st ≠ .pack lock f.id) :
    ¬st.Touches since name f := by
  have notLog := ne_of_isArchiveName logStem name logName named logName_not_archive
  have notStaging := ne_of_isArchiveName logStem name stagingName named stagingName_not_archive
  intro touched
  cases st with
  | moveAway lock => exact touched.elim notLog notStaging
  | pack lock id => exact made lock (congrArg (Stage.pack lock) (Eq.symm touched))
  | write id => exact (fits.2 name f present touched).elim notLog notStaging
  | dropStaging lock => exact notStaging touched
  | prune lock => exact absurd touched.2 (Nat.not_lt_of_le recent)
  | removeLock lock => exact ne_of_isArchiveName logStem name lockName named lockName_not_archive touched
  | _ => exact touched

/-- What others do leaves to a step what it needs, unless they rotate at the same time. -/
theorem Effect.fits {clock : Clock} {line : ByteArray} {since : Nat} {d e : Directory}
    {st other : Stage} (effect : Effect clock line d st e) (coherent : d.Coherent)
    (few : (d.recentNames since).length ≤ archivesKept) (fits : st.Fits since d)
    (theirs : other.Fits since d) (apart : other.rotates → ¬st.rotates) : other.Fits since e := by
  cases other with
  | tryLock lock => exact Nat.lt_of_lt_of_le theirs effect.fresh_le
  | createArchive lock name =>
      refine ⟨theirs.1, effect.absent name theirs.1 (fun made => ?_) theirs.2⟩
      obtain ⟨lock, rfl⟩ := st.created_of_made name made theirs.1
      exact apart rfl rfl
  | pack lock id =>
      obtain ⟨name, f, named, sole, rfl, unpacked, recent⟩ := theirs
      have untouched := st.not_touches_archive since d name f fits named sole.present recent
        fun lock same => apart rfl (same ▸ rfl)
      have kept := effect.untouched name f few sole.present untouched
      refine ⟨name, f, named, ⟨kept, fun new g present shared => ?_⟩, rfl, unpacked, recent⟩
      have below := coherent.files name f sole.present
      cases effect.origin new g present with
      | same g' there identity => exact sole.unique new g' there (identity.trans shared)
      | moved g' _ log identity _ _ =>
          have log := sole.unique logName g' log (identity.trans shared)
          exact absurd log.symm (ne_of_isArchiveName logStem name logName named logName_not_archive)
      | new _ fresh _ => omega
  | write id =>
      refine ⟨Nat.lt_of_lt_of_le theirs.1 effect.fresh_le, fun name g present shared => ?_⟩
      cases effect.origin name g present with
      | same g' there identity => exact theirs.2 name g' there (identity.trans shared)
      | moved _ _ _ _ staging _ => exact .inr staging
      | new _ fresh _ =>
          have below := theirs.1
          omega
  | _ => trivial

theorem fits_step (clock : Clock) (line : ByteArray) (since : Nat) (d : Directory) (st : Stage)
    (coherent : d.Coherent) (sole : ∀ f, d.file? logName = some f → d.Sole logName f)
    (timed : since ≤ clock.now) (fits : st.Fits since d) :
    (st.step clock line d).1.Fits since (st.step clock line d).2 := by
  cases st with
  | measure | measureAgain lock =>
      rw [step]
      split <;> trivial
  | openLock =>
      rw [step]
      cases opened : d.openFile lockName clock.now with
      | none => trivial
      | some result =>
          rcases d.openFile_cases result.2 lockName clock.now result.1 opened with
            ⟨f, present, same, rest⟩ | ⟨_, same, rest⟩
          · rw [Fits, rest, ← same]
            exact coherent.files lockName f present
          · rw [Fits, same, rest]
            exact Nat.lt_succ_self d.fresh
  | tryLock lock =>
      rw [step]
      split <;> trivial
  | moveAway lock =>
      rw [step]
      cases renamed : d.rename logName stagingName with
      | none => trivial
      | some e =>
          obtain ⟨f, log, rfl⟩ := d.rename_cases e logName stagingName renamed
          have effect : Effect clock line d (.moveAway lock)
            { d with nodes := (d.nodes.erase logName).insert stagingName (.file f) } := .move lock f log
          have named := d.isArchiveName_freeArchiveName logStem clock.stamp
          refine ⟨named, effect.absent _ named ?_ (d.freeArchiveName_absent logStem clock.stamp)⟩
          intro made
          cases made
  | createArchive lock name =>
      have sole := d.sole_addFile name ⟨d.fresh, .empty, false, clock.now⟩ coherent rfl
      rw [step, d.createFile_absent name clock.now coherent fits.2]
      exact ⟨name, _, fits.1, sole, rfl, rfl, timed⟩
  | pack lock id =>
      rw [step]
      split <;> trivial
  | dropStaging lock =>
      rw [step]
      split <;> trivial
  | openLog =>
      rw [step]
      cases opened : d.openFile logName clock.now with
      | none => trivial
      | some result =>
          rcases d.openFile_cases result.2 logName clock.now result.1 opened with
            ⟨f, present, same, rest⟩ | ⟨absent, same, rest⟩
          · rw [Fits, rest, ← same]
            exact ⟨coherent.files logName f present, fun name g there shared =>
              .inl ((sole f present).unique name g there shared)⟩
          · have sole := d.sole_addFile logName ⟨d.fresh, .empty, false, clock.now⟩ coherent rfl
            rw [Fits, rest, same]
            exact ⟨Nat.lt_succ_self d.fresh, fun name g there shared =>
              .inl (sole.unique name g there shared)⟩
  | _ => trivial

end Stage

end ProxyCheck
