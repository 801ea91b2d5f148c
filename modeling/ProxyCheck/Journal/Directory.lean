import ProxyCheck.NameMap

/-!
A directory of files. A file has an identity apart from its name: whoever has opened it goes on
writing to the same file when it is renamed, and to no name at all when it is removed. A lock holds
on the identity, too.
-/
namespace ProxyCheck

structure File where
  id : Nat
  /-- Of a packed file, what it unpacks to. -/
  content : ByteArray
  packed : Bool := false
  modified : Nat

inductive Node where
  | file (f : File)
  | folder (modified : Nat)

namespace Node

def file? : Node → Option File
  | .file f => some f
  | .folder _ => none

def isFile (n : Node) : Bool :=
  n.file?.isSome

def modified : Node → Nat
  | .file f => f.modified
  | .folder modified => modified

end Node

structure Directory where
  nodes : NameMap Node := {}
  /-- The files that are locked. -/
  locks : List Nat := []
  /-- The identity of the next new file. -/
  fresh : Nat := 0

namespace Directory

def file? (d : Directory) (name : String) : Option File :=
  (d.nodes.get? name).bind Node.file?

def has (d : Directory) (name : String) : Bool :=
  (d.nodes.get? name).isSome

def put (d : Directory) (name : String) (node : Node) : Directory :=
  { d with nodes := d.nodes.insert name node }

/-- Opens a file for writing, a new one if there is none. A folder cannot be opened. -/
def openFile (d : Directory) (name : String) (now : Nat) : Option (Nat × Directory) :=
  match d.nodes.get? name with
  | some (.file f) => some (f.id, d)
  | some (.folder _) => none
  | none =>
    let f : File := { id := d.fresh, content := .empty, modified := now }
    some (f.id, { d.put name (.file f) with fresh := d.fresh + 1 })

def update (d : Directory) (id : Nat) (change : File → File) : Directory :=
  { d with
    nodes := d.nodes.map fun
      | .file f => .file (if f.id = id then change f else f)
      | folder => folder }

def createFile (d : Directory) (name : String) (now : Nat) : Option (Nat × Directory) :=
  (d.openFile name now).map fun (id, d) =>
    (id, d.update id fun f => { f with content := .empty, packed := false, modified := now })

def appendTo (d : Directory) (id : Nat) (bytes : ByteArray) (now : Nat) : Directory :=
  d.update id fun f => { f with content := f.content ++ bytes, modified := now }

def pack (d : Directory) (id : Nat) (content : ByteArray) (now : Nat) : Directory :=
  d.update id fun f => { f with content, packed := true, modified := now }

def removeFile (d : Directory) (name : String) : Option Directory :=
  (d.file? name).map fun _ => { d with nodes := d.nodes.erase name }

/-- Gives a file another name. A file that had it is gone; a folder that has it stays. -/
def rename (d : Directory) (old new : String) : Option Directory := do
  let f ← d.file? old
  match d.nodes.get? new with
  | some (.folder _) => none
  | _ => return { d with nodes := (d.nodes.erase old).insert new (.file f) }

def lock (d : Directory) (id : Nat) : Option Directory :=
  if d.locks.contains id then none else some { d with locks := id :: d.locks }

def unlock (d : Directory) (id : Nat) : Directory :=
  { d with locks := d.locks.erase id }

end Directory

end ProxyCheck
