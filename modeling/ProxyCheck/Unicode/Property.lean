import ProxyCheck.Unicode.Span
import ProxyCheck.Unicode.Normalization
import ProxyCheck.Unicode.MarkTable
import ProxyCheck.Unicode.BidiClassTable
import ProxyCheck.Unicode.JoiningTypeTable

/-!
The character properties that decide which labels a domain name may have.
-/
namespace ProxyCheck.Unicode

def marks : Array (Span Unit) :=
  Span.table (fun _ => ()) markText

def isMark (c : Char) : Bool :=
  (Span.find? marks c).isSome

def isVirama (c : Char) : Bool :=
  combiningClass c == 9

inductive BidiClass where
  | leftToRight | rightToLeft | arabicLetter | arabicNumber | europeanNumber
  | europeanSeparator | commonSeparator | europeanTerminator | otherNeutral
  | boundaryNeutral | nonspacingMark
  | unfit
  deriving DecidableEq, Repr

/-- Separators, spaces and embedding controls share a class: none of them may stand in a label. -/
def BidiClass.ofNote (note : List Char) : BidiClass :=
  match String.ofList (note.drop 1) with
  | "L" => .leftToRight
  | "R" => .rightToLeft
  | "AL" => .arabicLetter
  | "AN" => .arabicNumber
  | "EN" => .europeanNumber
  | "ES" => .europeanSeparator
  | "CS" => .commonSeparator
  | "ET" => .europeanTerminator
  | "ON" => .otherNeutral
  | "BN" => .boundaryNeutral
  | "NSM" => .nonspacingMark
  | _ => .unfit

def bidiClasses : Array (Span BidiClass) :=
  Span.table BidiClass.ofNote bidiClassText

def bidiClass (c : Char) : BidiClass :=
  (Span.value? bidiClasses c).getD .leftToRight

inductive JoiningType where
  | dual | left | right | transparent | none
  deriving DecidableEq, Repr

def JoiningType.ofNote (note : List Char) : JoiningType :=
  match note with
  | [_, 'D'] => .dual
  | [_, 'L'] => .left
  | [_, 'R'] => .right
  | [_, 'T'] => .transparent
  | _ => .none

def joiningTypes : Array (Span JoiningType) :=
  Span.table JoiningType.ofNote joiningTypeText

def joiningType (c : Char) : JoiningType :=
  (Span.value? joiningTypes c).getD .none

end ProxyCheck.Unicode
