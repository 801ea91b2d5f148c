import ProxyCheck.Text.Hex

/-!
IPv6 addresses: eight pieces of sixteen bits, one run of zeros left out at a double colon, and the
last two pieces possibly as an IPv4 address.
-/
namespace ProxyCheck

structure Ipv6 where
  pieces : List UInt16
  length_pieces : pieces.length = 8
  deriving DecidableEq, Repr

namespace Ipv6

structure Draft where
  pieces : List Nat
  gap : Option Nat
  deriving DecidableEq, Repr

/-- Places taken: the pieces, and at least one zero for the double colon. -/
def Draft.size (d : Draft) : Nat :=
  d.pieces.length + if d.gap.isSome then 1 else 0

def Draft.add (d : Draft) (piece : Nat) : Draft :=
  { d with pieces := d.pieces ++ [piece] }

def readByte? (digits : List Char) : Option Nat :=
  let n := digitsValue 10 digits
  if digits.isEmpty || !digits.all Char.isDigit || (digits.length > 1 && digits.head? == some '0')
      || n > 255 then none
  else some n

def readDotted? (cs : List Char) : Option (Nat × Nat) :=
  match (cs.splitOn '.').map readByte? with
  | [some a, some b, some c, some d] => some (a * 256 + b, c * 256 + d)
  | _ => none

def readPieces : Nat → Draft → List Char → Option Draft
  | 0, _, _ => none
  | _ + 1, d, [] => some d
  | fuel + 1, d, cs@(c :: rest) =>
    if d.size = 8 then none
    else if c = ':' then
      if d.gap.isSome then none
      else readPieces fuel { d with gap := some d.pieces.length } rest
    else
      let digits := (cs.take 4).takeWhile isHex
      let piece := digitsValue 16 digits
      match cs.drop digits.length with
      | [] => some (d.add piece)
      | '.' :: _ =>
        if digits.isEmpty || d.size > 6 then none
        else (readDotted? cs).map fun (high, low) => (d.add high).add low
      | ':' :: [] => none
      | ':' :: rest => readPieces fuel (d.add piece) rest
      | _ => none

def Draft.fill (d : Draft) : List Nat :=
  match d.gap with
  | none => d.pieces
  | some k => d.pieces.take k ++ List.replicate (8 - d.pieces.length) 0 ++ d.pieces.drop k

def ofPieces? (pieces : List Nat) : Option Ipv6 :=
  let words := pieces.map UInt16.ofNat
  if h : words.length = 8 then some ⟨words, h⟩ else none

def ofText? (cs : List Char) : Option Ipv6 := do
  guard (2 ≤ cs.length)
  let draft ← match cs with
    | ':' :: ':' :: rest => readPieces (rest.length + 1) ⟨[], some 0⟩ rest
    | ':' :: _ => none
    | cs => readPieces (cs.length + 1) ⟨[], none⟩ cs
  ofPieces? draft.fill

def longestZeros : Nat → List UInt16 → Nat × Nat
  | _, [] => (0, 0)
  | place, w :: rest =>
    let here := ((w :: rest).takeWhile (· == 0)).length
    let (start, length) := longestZeros (place + 1) rest
    if 0 < here ∧ length ≤ here then (place, here) else (start, length)

def hexText (w : UInt16) : List Char :=
  Nat.toDigits 16 w.toNat

def colonText (words : List UInt16) : List Char :=
  [':'].intercalate (words.map hexText)

/-- Lower-case digits without zeros in front; the first longest run of two or more zero pieces is
left out. -/
def chars (a : Ipv6) : List Char :=
  let (start, length) := longestZeros 0 a.pieces
  if length < 2 then colonText a.pieces
  else colonText (a.pieces.take start) ++ "::".toList ++ colonText (a.pieces.drop (start + length))

def text (a : Ipv6) : String :=
  String.ofList (chars a)

end Ipv6

end ProxyCheck
