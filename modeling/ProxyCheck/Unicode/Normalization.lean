import ProxyCheck.Unicode.Span
import ProxyCheck.Unicode.DecompositionTable
import ProxyCheck.Unicode.CombiningClassTable

/-!
Normalization form C: decompose, put marks into canonical order, compose.
-/
namespace ProxyCheck.Unicode

structure Decomposition where
  parts : List Char
  composes : Bool
  deriving Repr

def dottedChars (cs : List Char) : List Char :=
  (cs.splitOn '.').map fun number => Char.ofNat (digitsValue 16 number)

def decompositions : Array (Span Decomposition) :=
  Span.table (fun note => ⟨dottedChars (note.drop 1), note.head? == some '='⟩) decompositionText

def combiningClasses : Array (Span Nat) :=
  Span.table (fun note => digitsValue 16 (note.drop 1)) combiningClassText

def combiningClass (c : Char) : Nat :=
  (Span.value? combiningClasses c).getD 0

namespace Hangul

def firstSyllable : Nat := 0xAC00
def firstLead : Nat := 0x1100
def firstVowel : Nat := 0x1161
def firstTail : Nat := 0x11A7

/-- A syllable is one of 19 leads with one of 21 vowels and one of 28 tails, the first of which is
none. -/
def decompose? (c : Char) : Option (List Char) :=
  let n := c.toNat
  if firstSyllable ≤ n ∧ n < firstSyllable + 11172 then
    let i := n - firstSyllable
    let pair := [Char.ofNat (firstLead + i / 588), Char.ofNat (firstVowel + i % 588 / 28)]
    if i % 28 = 0 then some pair else some (pair ++ [Char.ofNat (firstTail + i % 28)])
  else none

def compose? (a b : Char) : Option Char :=
  let m := a.toNat
  let n := b.toNat
  if firstLead ≤ m ∧ m < firstLead + 19 ∧ firstVowel ≤ n ∧ n < firstVowel + 21 then
    some (Char.ofNat (firstSyllable + ((m - firstLead) * 21 + (n - firstVowel)) * 28))
  else if firstSyllable ≤ m ∧ m < firstSyllable + 11172 ∧ (m - firstSyllable) % 28 = 0 ∧
      firstTail < n ∧ n < firstTail + 28 then
    some (Char.ofNat (m + (n - firstTail)))
  else none

end Hangul

def decomposeChar : Nat → Char → List Char
  | 0, c => [c]
  | depth + 1, c =>
    match Hangul.decompose? c with
    | some parts => parts
    | none =>
      match Span.value? decompositions c with
      | some d => d.parts.flatMap (decomposeChar depth)
      | none => [c]

def insertMark (c : Char) : List Char → List Char
  | [] => [c]
  | d :: before =>
    if combiningClass c ≠ 0 ∧ combiningClass c < combiningClass d then d :: insertMark c before
    else c :: d :: before

def decompose (text : List Char) : List Char :=
  ((text.flatMap (decomposeChar 8)).foldl (fun before c => insertMark c before) []).reverse

def pairKey (a b : Char) : Nat :=
  a.toNat * 0x110000 + b.toNat

def compositions : Array (Span Char) :=
  let pairs := decompositions.toList.filterMap fun span =>
    match span.value with
    | ⟨[a, b], true⟩ => some (⟨pairKey a b, pairKey a b, Char.ofNat span.first⟩ : Span Char)
    | _ => none
  (pairs.mergeSort fun p q => p.first ≤ q.first).toArray

def composePair? (a b : Char) : Option Char :=
  match Hangul.compose? a b with
  | some c => some c
  | none => (Span.search compositions (pairKey a b) 0 compositions.size).map Span.value

/-- Composes marks onto `starter`. The marks that stayed apart from it are kept backwards; one of
them shuts out later marks of no higher class. -/
def composeOnto (starter : Char) (marks : List Char) : List Char → List Char
  | [] => starter :: marks.reverse
  | c :: rest =>
    let free := match marks with
      | [] => true
      | last :: _ => combiningClass last < combiningClass c
    match if free then composePair? starter c else none with
    | some composite => composeOnto composite marks rest
    | none =>
      if combiningClass c = 0 then starter :: marks.reverse ++ composeOnto c [] rest
      else composeOnto starter (c :: marks) rest

def compose : List Char → List Char
  | [] => []
  | c :: rest => if combiningClass c = 0 then composeOnto c [] rest else c :: compose rest

def normalize (text : List Char) : List Char :=
  compose (decompose text)

end ProxyCheck.Unicode
