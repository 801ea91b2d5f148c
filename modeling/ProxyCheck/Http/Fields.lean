import ProxyCheck.NameMap

/-!
The header fields of a response. A field that is not readable is as good as none.
-/
namespace ProxyCheck.Http

abbrev Field := String × List UInt8

def isReadable (b : UInt8) : Bool :=
  (0x20 ≤ b && b < 0x7F) || b == 0x09

def readable? (value : List UInt8) : Option String :=
  if value.all isReadable then some (String.ofList (value.map fun b => Char.ofNat b.toNat)) else none

def lowerName (name : String) : String :=
  String.ofList (name.toList.map Char.toLower)

def collectField (fields : NameMap String) (f : Field) : NameMap String :=
  match readable? f.2 with
  | some value => fields.insert (lowerName f.1) value
  | none => fields

/-- Names in lower case, each with the last of its values that is readable. -/
def collect (fields : List Field) : NameMap String :=
  fields.foldl collectField {}

end ProxyCheck.Http
