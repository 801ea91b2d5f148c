import ProxyCheck.Journal.Directory
import ProxyCheck.Proofs.NameMap

/-! What each operation on a directory does to the names in it. -/
namespace ProxyCheck.Directory

/-- Identities are given out once: those in use are below the next. -/
structure Coherent (d : Directory) : Prop where
  files : ∀ name f, d.file? name = some f → f.id < d.fresh
  locks : ∀ id ∈ d.locks, id < d.fresh

structure Sole (d : Directory) (name : String) (f : File) : Prop where
  present : d.file? name = some f
  unique : ∀ other g, d.file? other = some g → g.id = f.id → other = name

theorem file?_eq_some_iff (d : Directory) (name : String) (f : File) :
    d.file? name = some f ↔ d.nodes.get? name = some (.file f) := by
  simp only [file?, Option.bind_eq_some_iff]
  constructor
  · rintro ⟨node, present, same⟩
    cases node with
    | file g => exact present.trans (congrArg (some ∘ Node.file) (Option.some.inj same))
    | folder modified => cases same
  · intro present
    exact ⟨.file f, present, rfl⟩

@[simp] theorem get?_put (d : Directory) (name : String) (node : Node) (other : String) :
    (d.put name node).nodes.get? other =
      if other = name then some node else d.nodes.get? other :=
  NameMap.get?_insert d.nodes name node other

@[simp] theorem file?_put (d : Directory) (name : String) (f : File) (other : String) :
    (d.put name (.file f)).file? other = if other = name then some f else d.file? other := by
  simp only [file?, get?_put]
  split <;> rfl

/-- The directory with a new file in it. -/
def addFile (d : Directory) (name : String) (f : File) : Directory :=
  { d.put name (.file f) with fresh := d.fresh + 1 }

@[simp] theorem get?_addFile (d : Directory) (name : String) (f : File) (other : String) :
    (d.addFile name f).nodes.get? other =
      if other = name then some (.file f) else d.nodes.get? other :=
  d.get?_put name (.file f) other

@[simp] theorem file?_addFile (d : Directory) (name : String) (f : File) (other : String) :
    (d.addFile name f).file? other = if other = name then some f else d.file? other :=
  d.file?_put name f other

theorem addFile_put (d : Directory) (name : String) (f g : File) :
    (d.addFile name f).put name (.file g) = d.addFile name g := by
  have nodes : ((d.addFile name f).put name (.file g)).nodes = (d.addFile name g).nodes := by
    apply NameMap.ext_get?
    intro other
    simp only [get?_put, get?_addFile]
    split <;> rfl
  simpa [put, addFile] using nodes

theorem sole_addFile (d : Directory) (name : String) (f : File) (coherent : d.Coherent)
    (new : f.id = d.fresh) : (d.addFile name f).Sole name f := by
  constructor
  · simp
  · intro other g present same
    rw [file?_addFile] at present
    by_cases here : other = name
    · exact here
    · rw [if_neg here] at present
      have below := coherent.files other g present
      omega

theorem coherent_addFile (d : Directory) (name : String) (f : File) (coherent : d.Coherent)
    (new : f.id = d.fresh) : (d.addFile name f).Coherent := by
  constructor
  · intro other g present
    rw [file?_addFile] at present
    by_cases here : other = name
    · rw [if_pos here] at present
      cases present
      exact new ▸ Nat.lt_succ_self d.fresh
    · rw [if_neg here] at present
      exact Nat.lt_succ_of_lt (coherent.files other g present)
  · intro id locked
    exact Nat.lt_succ_of_lt (coherent.locks id locked)

theorem update_sole (d : Directory) (name : String) (f : File) (sole : d.Sole name f)
    (change : File → File) : d.update f.id change = d.put name (.file (change f)) := by
  have nodes : (d.update f.id change).nodes = (d.put name (.file (change f))).nodes := by
    apply NameMap.ext_get?
    intro other
    rw [get?_put, update, NameMap.get?_map]
    by_cases here : other = name
    · rw [if_pos here, here, (d.file?_eq_some_iff name f).mp sole.present]
      simp
    · rw [if_neg here]
      cases found : d.nodes.get? other with
      | none => rfl
      | some node =>
          cases node with
          | folder modified => rfl
          | file g =>
              have apart : g.id ≠ f.id := fun same =>
                here (sole.unique other g ((d.file?_eq_some_iff other g).mpr found) same)
              simp [apart]
  simpa [update, put] using nodes

theorem openFile_present (d : Directory) (name : String) (f : File) (now : Nat)
    (present : d.file? name = some f) : d.openFile name now = some (f.id, d) := by
  rw [openFile, (d.file?_eq_some_iff name f).mp present]

theorem openFile_absent (d : Directory) (name : String) (now : Nat)
    (absent : d.nodes.get? name = none) :
    d.openFile name now = some (d.fresh, d.addFile name ⟨d.fresh, .empty, false, now⟩) := by
  rw [openFile, absent]
  rfl

theorem createFile_absent (d : Directory) (name : String) (now : Nat) (coherent : d.Coherent)
    (absent : d.nodes.get? name = none) :
    d.createFile name now = some (d.fresh, d.addFile name ⟨d.fresh, .empty, false, now⟩) := by
  have sole := d.sole_addFile name ⟨d.fresh, .empty, false, now⟩ coherent rfl
  rw [createFile, d.openFile_absent name now absent, Option.map_some]
  exact congrArg (fun e => some (d.fresh, e)) ((update_sole _ name _ sole _).trans
    (d.addFile_put name _ _))

theorem removeFile_present (d : Directory) (name : String) (f : File)
    (present : d.file? name = some f) :
    d.removeFile name = some { d with nodes := d.nodes.erase name } := by
  rw [removeFile, present]
  rfl

theorem rename_present (d : Directory) (old new : String) (f : File)
    (present : d.file? old = some f) (free : ∀ modified, d.nodes.get? new ≠ some (.folder modified)) :
    d.rename old new = some { d with nodes := (d.nodes.erase old).insert new (.file f) } := by
  rw [rename, present]
  cases found : d.nodes.get? new with
  | none => simp
  | some node =>
      cases node with
      | file g => simp
      | folder modified => exact absurd found (free modified)

theorem lock_free (d : Directory) (id : Nat) (free : id ∉ d.locks) :
    d.lock id = some { d with locks := id :: d.locks } := by
  simp [lock, free]

end ProxyCheck.Directory
