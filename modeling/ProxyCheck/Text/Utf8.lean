/-!
UTF-8 decoding, one byte at a time. A byte sequence falls into pieces: a decoded character, or one
invalid piece for each longest run of bytes that starts a character and is then broken off.
-/
namespace ProxyCheck.Utf8

inductive Piece where
  | char (c : Char)
  | invalid
  deriving DecidableEq, Repr

structure Partial where
  bits : Nat
  owed : Nat
  low : UInt8
  high : UInt8
  deriving DecidableEq, Repr

abbrev Progress := List Piece × Option Partial

/-- A byte where a character may start. The bounds on the second byte shut out overlong forms,
surrogates and numbers above U+10FFFF. -/
def lead (b : UInt8) : Progress :=
  let n := b.toNat
  if n < 0x80 then ([.char (Char.ofNat n)], none)
  else if n < 0xC2 then ([.invalid], none)
  else if n < 0xE0 then ([], some ⟨n % 32, 1, 0x80, 0xBF⟩)
  else if n < 0xF0 then
    ([], some ⟨n % 16, 2, if n = 0xE0 then 0xA0 else 0x80, if n = 0xED then 0x9F else 0xBF⟩)
  else if n < 0xF5 then
    ([], some ⟨n % 8, 3, if n = 0xF0 then 0x90 else 0x80, if n = 0xF4 then 0x8F else 0xBF⟩)
  else ([.invalid], none)

def feed : Option Partial → UInt8 → Progress
  | none, b => lead b
  | some p, b =>
    if p.low ≤ b && b ≤ p.high then
      let bits := p.bits * 64 + b.toNat % 64
      if p.owed ≤ 1 then ([.char (Char.ofNat bits)], none)
      else ([], some ⟨bits, p.owed - 1, 0x80, 0xBF⟩)
    else
      let (pieces, rest) := lead b
      (.invalid :: pieces, rest)

def piecesFrom : Option Partial → List UInt8 → List Piece
  | none, [] => []
  | some _, [] => [.invalid]
  | state, b :: bytes =>
    let (pieces, next) := feed state b
    pieces ++ piecesFrom next bytes

def pieces (bytes : List UInt8) : List Piece :=
  piecesFrom none bytes

/-- Every invalid piece becomes U+FFFD. -/
def Piece.display : Piece → Char
  | .char c => c
  | .invalid => '\uFFFD'

def Piece.char? : Piece → Option Char
  | .char c => some c
  | .invalid => none

def decodeLossy (bytes : List UInt8) : List Char :=
  (pieces bytes).map Piece.display

def decode? (bytes : List UInt8) : Option (List Char) :=
  (pieces bytes).mapM Piece.char?

def encode (text : List Char) : List UInt8 :=
  text.flatMap String.utf8EncodeChar

end ProxyCheck.Utf8
