import ProxyCheck.Domain.Label

/-!
Domain names in ASCII. Every label is mapped and checked; those outside ASCII are encoded. No
length is checked, and a label may be empty.
-/
namespace ProxyCheck.Domain

/-- Characters that no domain name of a URL has: controls, the blank, and those that end a host or
mean something else in a URL. -/
def isForbidden (c : Char) : Bool :=
  c.toNat ≤ 0x20 || c.toNat == 0x7F || "%#/:<>?@[\\]^|".toList.contains c

/-- ASCII without an encoded label: only letters need mapping. -/
def isPlain (text : List Char) : Bool :=
  text.all isAscii &&
    ((text.map Char.toLower).splitOn '.').all fun label => !encodedMark.isPrefixOf label

def mappedToAscii (text : List Char) : Option (List Char) := do
  let mapped ← mapText? text
  let labels ← (mapped.splitOn '.').mapM Label.ofMapped
  guard (!(labels.any fun label => label.unicode.any isRightToLeft) ||
    labels.all Label.oneDirection)
  return ['.'].intercalate (labels.map Label.ascii)

def isNameChar (c : Char) : Bool :=
  isAscii c && !isForbidden c

def toAscii (text : List Char) : Option (List Char) :=
  (if isPlain text then some (text.map Char.toLower) else mappedToAscii text).filter
    fun name => name.all isNameChar

theorem isNameChar_of_toAscii {text name : List Char} (converted : toAscii text = some name) :
    ∀ c ∈ name, isNameChar c := by
  simp only [toAscii, Option.filter_eq_some_iff, List.all_eq_true] at converted
  exact converted.2

end ProxyCheck.Domain
