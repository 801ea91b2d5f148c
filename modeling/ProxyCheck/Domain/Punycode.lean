import ProxyCheck.Text.Hex

/-!
Punycode: a label outside ASCII written with the letters a to z, the digits and the hyphen. The
characters outside ASCII are inserted in ascending order; each insertion is a number, written with
digits of base 36 whose weights adapt to the numbers before it.
-/
namespace ProxyCheck.Domain.Punycode

def digitChar (d : Nat) : Char :=
  Char.ofNat (if d < 26 then 0x61 + d else 0x16 + d)

def digitValue? (c : Char) : Option Nat :=
  let n := c.toNat
  if 0x61 ≤ n ∧ n ≤ 0x7A then some (n - 0x61)
  else if 0x30 ≤ n ∧ n ≤ 0x39 then some (n - 0x16)
  else none

theorem digitValue?_digitChar {d : Nat} (small : d < 36) : digitValue? (digitChar d) = some d := by
  have all : ∀ e ∈ List.range 36, digitValue? (digitChar e) = some e := by decide
  exact all d (List.mem_range.mpr small)

/-- The digit at place `k` ends its number if it is below this. -/
def threshold (k bias : Nat) : Nat :=
  if k ≤ bias then 1 else if bias + 26 ≤ k then 26 else k - bias

theorem threshold_pos (k bias : Nat) : 1 ≤ threshold k bias := by
  unfold threshold; split <;> (try split) <;> omega

theorem threshold_le (k bias : Nat) : threshold k bias ≤ 26 := by
  unfold threshold; split <;> (try split) <;> omega

def adaptFrom (k delta : Nat) : Nat :=
  if 455 < delta then adaptFrom (k + 36) (delta / 35)
  else k + 36 * delta / (delta + 38)
termination_by delta

def adapt (delta length : Nat) (first : Bool) : Nat :=
  let delta := if first then delta / 700 else delta / 2
  adaptFrom 0 (delta + delta / length)

def bound : Nat := UInt32.size

def takeNumber (bias : Nat) : Nat → Nat → Nat → List Char → Option (Nat × List Char)
  | _, _, _, [] => none
  | k, weight, value, c :: rest => do
    let digit ← digitValue? c
    let value := value + digit * weight
    let t := threshold k bias
    if bound ≤ value then none
    else if digit < t then some (value, rest)
    else if bound ≤ weight * (36 - t) then none
    else takeNumber bias (k + 36) (weight * (36 - t)) value rest

theorem takeNumber_shorter {bias k weight value result : Nat} {cs rest : List Char}
    (taken : takeNumber bias k weight value cs = some (result, rest)) :
    rest.length < cs.length := by
  induction cs generalizing k weight value with
  | nil => simp [takeNumber] at taken
  | cons c cs ih =>
    simp only [takeNumber, Option.bind_eq_bind, Option.bind_eq_some_iff] at taken
    obtain ⟨digit, _, taken⟩ := taken
    (repeat' split at taken) <;> simp_all
    have := ih taken
    omega

def insertAll (text : List Char) (codePoint position bias : Nat) (cs : List Char) :
    Option (List Char) :=
  match cs with
  | [] => some text
  | c :: more =>
    match _ : takeNumber bias 36 1 position (c :: more) with
    | none => none
    | some (value, rest) =>
      let length := text.length + 1
      let codePoint := codePoint + value / length
      let place := value % length
      if codePoint.isValidChar then
        insertAll (text.take place ++ Char.ofNat codePoint :: text.drop place) codePoint
          (place + 1) (adapt (value - position) length (position == 0)) rest
      else none
termination_by cs.length
decreasing_by exact takeNumber_shorter ‹_›

/-- The last hyphen divides the ASCII characters from the insertions. A label that starts with its
only hyphen has no ASCII characters before it, and so none may divide them. -/
def decode (cs : List Char) : Option (List Char) :=
  let insertions := (cs.reverse.takeWhile (· ≠ '-')).reverse
  if insertions.length = cs.length then insertAll [] 128 0 72 cs
  else
    let basic := cs.take (cs.length - insertions.length - 1)
    if basic.isEmpty then none else insertAll basic 128 0 72 insertions

def numberDigits (bias k n : Nat) : List Char :=
  let t := threshold k bias
  if n < t then [digitChar n]
  else digitChar (t + (n - t) % (36 - t)) :: numberDigits bias (k + 36) ((n - t) / (36 - t))
termination_by n
decreasing_by
  have := threshold_pos k bias
  have := threshold_le k bias
  have : (n - threshold k bias) / (36 - threshold k bias) ≤ n - threshold k bias :=
    Nat.div_le_self _ _
  omega

structure Encoder where
  delta : Nat
  bias : Nat
  handled : Nat
  digits : List Char

def Encoder.pass (basic m : Nat) (text : List Char) (e : Encoder) : Encoder :=
  text.foldl
    (fun e c =>
      if c.toNat < m then { e with delta := e.delta + 1 }
      else if c.toNat = m then
        { delta := 0
          bias := adapt e.delta (e.handled + 1) (e.handled == basic)
          handled := e.handled + 1
          digits := e.digits ++ numberDigits e.bias 36 e.delta }
      else e)
    e

def Encoder.passes (basic : Nat) (text : List Char) : Nat → List Nat → Encoder → Encoder
  | _, [], e => e
  | n, m :: points, e =>
    let e := { e with delta := e.delta + (m - n) * (e.handled + 1) }
    let e := e.pass basic m text
    passes basic text (m + 1) points { e with delta := e.delta + 1 }

def encode (text : List Char) : List Char :=
  let basic := text.filter (·.toNat < 128)
  let points := ((text.map Char.toNat).filter (128 ≤ ·)).eraseDups.mergeSort
  let start : Encoder := ⟨0, 72, basic.length, []⟩
  let digits := (start.passes basic.length text 128 points).digits
  if basic.isEmpty then digits else basic ++ '-' :: digits

end ProxyCheck.Domain.Punycode
