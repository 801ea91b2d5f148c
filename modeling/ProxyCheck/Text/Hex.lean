/-!
Hexadecimal digits.
-/
namespace ProxyCheck

def hexValue? (c : Char) : Option Nat :=
  let n := c.toNat
  if 0x30 ≤ n ∧ n ≤ 0x39 then some (n - 0x30)
  else if 0x41 ≤ n ∧ n ≤ 0x46 then some (n - 0x37)
  else if 0x61 ≤ n ∧ n ≤ 0x66 then some (n - 0x57)
  else none

def isHex (c : Char) : Bool :=
  (hexValue? c).isSome

def hexDigit (n : Nat) : Char :=
  Char.ofNat (if n < 10 then 0x30 + n else 0x57 + n)

def hexByte (b : UInt8) : List Char :=
  [hexDigit (b.toNat / 16), hexDigit (b.toNat % 16)]

def hexDigitUpper (n : Nat) : Char :=
  Char.ofNat (if n < 10 then 0x30 + n else 0x37 + n)

/-- The number that digits of a base spell; a character that is no digit counts as zero. -/
def digitsValue (base : Nat) (digits : List Char) : Nat :=
  digits.foldl (fun n c => n * base + (hexValue? c).getD 0) 0

theorem hexValue?_hexDigit {n : Nat} (small : n < 16) : hexValue? (hexDigit n) = some n := by
  have all : ∀ m ∈ List.range 16, hexValue? (hexDigit m) = some m := by decide
  exact all n (List.mem_range.mpr small)

theorem hexValue?_hexDigitUpper {n : Nat} (small : n < 16) :
    hexValue? (hexDigitUpper n) = some n := by
  have all : ∀ m ∈ List.range 16, hexValue? (hexDigitUpper m) = some m := by decide
  exact all n (List.mem_range.mpr small)

end ProxyCheck
