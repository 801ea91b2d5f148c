import ProxyCheck.Unicode.Span
import ProxyCheck.Unicode.Normalization
import ProxyCheck.Domain.MappingTable

/-!
How the characters of a domain name are brought to one form: letters to lower case, compatibility
forms to plain ones, and characters that carry no meaning dropped.
-/
namespace ProxyCheck.Domain

inductive Rule where
  | keep
  | drop
  /-- Every other character of the run, from its first, becomes its successor. -/
  | alternate
  | become (target : List Char)
  deriving DecidableEq, Repr

def Rule.ofNote (note : List Char) : Rule :=
  match note with
  | [] => .keep
  | ['~'] => .drop
  | ['%'] => .alternate
  | _ :: target => .become (Unicode.dottedChars target)

def rules : Array (Span Rule) :=
  Span.table Rule.ofNote mappingText

def mapChar? (c : Char) : Option (List Char) :=
  match Span.find? rules c with
  | none => none
  | some span =>
    let offset := c.toNat - span.first
    match span.value with
    | .keep => some [c]
    | .drop => some []
    | .alternate => some [if offset % 2 = 0 then Char.ofNat (c.toNat + 1) else c]
    | .become [d] => some [Char.ofNat (d.toNat + offset)]
    | .become target => some target

/-- The mapped text in normalization form C. -/
def mapText? (text : List Char) : Option (List Char) :=
  (text.mapM mapChar?).map fun parts => Unicode.normalize parts.flatten

def isSettled (text : List Char) : Bool :=
  text.all (fun c => mapChar? c == some [c]) && Unicode.normalize text == text

end ProxyCheck.Domain
