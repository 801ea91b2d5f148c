import ProxyCheck.NameMap
import ProxyCheck.Number.Binary64

/-!
JSON values. Whole numbers that fit 64 bits, with a sign or without, are kept exactly.
-/
namespace ProxyCheck

inductive JsonNumber where
  | whole (n : Int)
  | binary (x : Binary64)
  deriving DecidableEq, Repr

inductive Json where
  | null
  | bool (b : Bool)
  | number (n : JsonNumber)
  | string (text : String)
  | array (items : List Json)
  | object (members : List (String × Json))
  deriving Repr, Inhabited

namespace Json

def natural (n : Nat) : Json :=
  .number (.whole n)

def optional {α : Type} (write : α → Json) (x : Option α) : Json :=
  x.elim .null write

def text? : Json → Option String
  | .string text => some text
  | _ => none

def whole? : Json → Option Int
  | .number (.whole n) => some n
  | _ => none

mutual

def sortMembers : Json → Json
  | .array items => .array (sortItems items)
  | .object members => .object (NamedPairs.sort (sortValues members))
  | j => j

def sortItems : List Json → List Json
  | [] => []
  | item :: rest => item.sortMembers :: sortItems rest

def sortValues : List (String × Json) → List (String × Json)
  | [] => []
  | (key, value) :: rest => (key, value.sortMembers) :: sortValues rest

end

end Json

end ProxyCheck
