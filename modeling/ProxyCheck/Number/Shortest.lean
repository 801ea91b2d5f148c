import ProxyCheck.Number.Binary64

/-!
The shortest decimal that rounds to a given binary number, of the shortest the nearest.
-/
namespace ProxyCheck

structure Decimal where
  digits : Nat
  exponent : Int
  deriving DecidableEq, Repr

namespace Decimal

def quotient (d : Decimal) : Nat × Nat :=
  (d.digits * Nat.pow 10 d.exponent.toNat, Nat.pow 10 (-d.exponent).toNat)

def readsAs (d : Decimal) (x : Binary64) : Bool :=
  let (num, den) := d.quotient
  (Binary64.ofQuotient? x.negative num den) = some x

def orderFrom (num den : Nat) (e : Int) : Nat → Int
  | 0 => e
  | n + 1 =>
    if Nat.pow 10 e.toNat * den ≤ num * Nat.pow 10 (-e).toNat then e
    else orderFrom num den (e - 1) n

def order (num den : Nat) : Int :=
  orderFrom num den (((Nat.log2 num : Int) - Nat.log2 den + 1) * 30103 / 100000 + 1) 4

/-- The neighbours of a quotient among the multiples of `10 ^ e`, the nearer first; of two equally
near, the one with an even last digit. -/
def neighbours (num den : Nat) (e : Int) : List Decimal :=
  let n := num * Nat.pow 10 (-e).toNat
  let d := den * Nat.pow 10 e.toNat
  let q := n / d
  let near := Binary64.roundHalfEven n d
  [⟨near, e⟩, ⟨if near = q then q + 1 else q, e⟩]

def search (x : Binary64) (num den : Nat) (top : Int) : Nat → Option Decimal
  | 0 => none
  | n + 1 =>
    match search x num den top n with
    | some d => some d
    | none => (neighbours num den (top - n)).find? (readsAs · x)

def trim (d : Decimal) : Nat → Decimal
  | 0 => d
  | n + 1 => if d.digits % 10 = 0 then trim ⟨d.digits / 10, d.exponent + 1⟩ n else d

def shortest (x : Binary64) : Decimal :=
  if x.significand = 0 then ⟨0, 0⟩
  else
    let (num, den) := x.quotient
    ((search x num den (order num den) 17).getD ⟨0, 0⟩).trim 17

end Decimal

end ProxyCheck
