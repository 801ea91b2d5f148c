import ProxyCheck.Journal.Directory

/-!
Archives of the log: how they are named, and which are kept.
-/
namespace ProxyCheck

def logStem : String :=
  "proxyprobe-debug"

def archiveEnd : String :=
  ".gz"

/-- The archives made at one time are numbered, the first of them apart. -/
def archiveName (stem stamp : String) (n : Nat) : String :=
  stem ++ "." ++ stamp ++ (if n = 0 then "" else "-" ++ toString n) ++ archiveEnd

def isArchiveName (stem name : String) : Bool :=
  (stem ++ ".").toList.isPrefixOf name.toList && archiveEnd.toList.isSuffixOf name.toList

def archivesKept : Nat := 3

def archivesOf {α : Type} (stem : String) (modified : α → Nat) (all : NamedPairs α) :
    NamedPairs α :=
  (all.filter fun p => isArchiveName stem p.1).mergeSort fun p q => modified p.2 ≤ modified q.2

def surplusOf {α : Type} (stem : String) (modified : α → Nat) (all : NamedPairs α) :
    NamedPairs α :=
  let archives := archivesOf stem modified all
  archives.take (archives.length - archivesKept)

/-- The first number from `n` on whose name is not taken, looking at `fuel` of them. -/
def freeNumber (taken : Nat → Bool) : Nat → Nat → Nat
  | 0, n => n
  | fuel + 1, n => if taken n then freeNumber taken fuel (n + 1) else n

namespace Directory

def freeArchiveName (d : Directory) (stem stamp : String) : String :=
  archiveName stem stamp
    (freeNumber (fun n => d.has (archiveName stem stamp n)) d.nodes.pairs.length 0)

def archives (d : Directory) (stem : String) : NamedPairs Node :=
  archivesOf stem Node.modified d.nodes.pairs

def surplus (d : Directory) (stem : String) : NamedPairs Node :=
  surplusOf stem Node.modified d.nodes.pairs

/-- Removes the surplus archives. A folder named like one counts, and stays. -/
def prune (d : Directory) (stem : String) : Directory :=
  (d.surplus stem).foldl (fun d p => (d.removeFile p.1).getD d) d

end Directory

end ProxyCheck
