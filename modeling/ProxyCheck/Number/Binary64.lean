import ProxyCheck.Text.Hex

/-!
Binary floating-point numbers of 64 bits, in exact arithmetic: how a quotient is rounded to one, and
how two of them are multiplied and divided.
-/
namespace ProxyCheck

/-- The number `significand * 2 ^ exponent`, with its sign. The significand has 53 bits, or the
exponent is the least one. -/
structure Binary64 where
  negative : Bool
  significand : Nat
  exponent : Int
  deriving DecidableEq, Repr

namespace Binary64

def leastExponent : Int := -1074

def greatestExponent : Int := 971

def roundHalfEven (num den : Nat) : Nat :=
  let q := num / den
  let r := num % den
  if den < 2 * r ∨ (2 * r = den ∧ q % 2 = 1) then q + 1 else q

def scaleDown (num den : Nat) (e : Int) : Nat × Nat :=
  (num <<< (-e).toNat, den <<< e.toNat)

def exponentOf (num den : Nat) : Int :=
  let e := (Nat.log2 num : Int) - Nat.log2 den
  let (n, d) := scaleDown num den e
  max (if n < d then e - 53 else e - 52) leastExponent

def zero (negative : Bool) : Binary64 :=
  ⟨negative, 0, leastExponent⟩

def ofQuotient? (negative : Bool) (num den : Nat) : Option Binary64 :=
  if num = 0 then some (zero negative)
  else
    let e := exponentOf num den
    let (n, d) := scaleDown num den e
    let m := roundHalfEven n d
    let (m, e) := if m = 1 <<< 53 then (1 <<< 52, e + 1) else (m, e)
    if greatestExponent < e then none else some ⟨negative, m, e⟩

def quotient (x : Binary64) : Nat × Nat :=
  (x.significand <<< x.exponent.toNat, 1 <<< (-x.exponent).toNat)

def mul? (x y : Binary64) : Option Binary64 :=
  let (a, b) := x.quotient
  let (c, d) := y.quotient
  ofQuotient? (x.negative != y.negative) (a * c) (b * d)

def div? (x y : Binary64) : Option Binary64 :=
  let (a, b) := x.quotient
  let (c, d) := y.quotient
  ofQuotient? (x.negative != y.negative) (a * d) (b * c)

def powerOfTen? (k : Nat) : Option Binary64 :=
  ofQuotient? false (Nat.pow 10 k) 1

def greatestPower : Nat := 308

def divGreatest? : Nat → Binary64 → Option Binary64
  | 0, x => some x
  | n + 1, x =>
    if x.significand = 0 then some x
    else
      match (powerOfTen? greatestPower).bind x.div? with
      | some y => divGreatest? n y
      | none => none

def divPower? (x : Binary64) (k : Nat) : Option Binary64 := do
  let times := (k - 1) / greatestPower
  let y ← divGreatest? times x
  y.div? (← powerOfTen? (k - times * greatestPower))

def mulPower? (x : Binary64) (k : Nat) : Option Binary64 :=
  if k ≤ greatestPower then do x.mul? (← powerOfTen? k)
  else if x.significand = 0 then some x
  else none

/-- A whole number times a power of ten. The whole number is rounded first, and each product or
quotient is. -/
def ofDecimal? (negative : Bool) (n : Nat) (e : Int) : Option Binary64 := do
  let x ← ofQuotient? negative n 1
  if e < 0 then x.divPower? e.natAbs else x.mulPower? e.natAbs

end Binary64

end ProxyCheck
