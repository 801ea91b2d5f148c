import ProxyCheck.Text.Hex

/-!
IPv4 addresses as URLs read them: one to four numbers, decimal, octal after a zero or hexadecimal
after `0x`, the last of which fills all bytes that are left.
-/
namespace ProxyCheck

structure Ipv4 where
  bits : UInt32
  deriving DecidableEq, Repr

namespace Ipv4

/-- The digits of a number and their base. No digits at all spell zero. -/
def numeral (part : List Char) : Nat × List Char :=
  match part with
  | '0' :: 'x' :: digits => (16, digits)
  | '0' :: 'X' :: digits => (16, digits)
  | '0' :: d :: digits => (8, d :: digits)
  | digits => (10, digits)

def readNumber? (part : List Char) : Option Nat :=
  if part.isEmpty then none
  else
    let (base, digits) := numeral part
    if digits.all fun c => (hexValue? c).any (· < base) then some (digitsValue base digits)
    else none

def parts (name : List Char) : List (List Char) :=
  let all := name.splitOn '.'
  if all.getLast? = some [] then all.dropLast else all

/-- A name whose last part is a number has to be an address. -/
def looksNumeric (name : List Char) : Bool :=
  match (parts name).getLast? with
  | none => false
  | some last => (!last.isEmpty && last.all Char.isDigit) || (readNumber? last).isSome

def ofNumbers? (numbers : List Nat) : Option Ipv4 :=
  match numbers.getLast? with
  | none => none
  | some last =>
    let front := numbers.dropLast
    let width := 8 * (4 - front.length)
    if front.length ≤ 3 ∧ last >>> width = 0 ∧ front.all (· < 256) then
      let high := front.foldl (fun bits n => bits * 256 + n) 0
      some ⟨UInt32.ofNat (high <<< width + last)⟩
    else none

def ofName? (name : List Char) : Option Ipv4 :=
  ((parts name).mapM readNumber?).bind ofNumbers?

def text (a : Ipv4) : String :=
  let n := a.bits.toNat
  toString (n >>> 24) ++ "." ++ toString (n >>> 16 % 256) ++ "." ++
    toString (n >>> 8 % 256) ++ "." ++ toString (n % 256)

end Ipv4

end ProxyCheck
