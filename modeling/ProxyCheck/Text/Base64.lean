/-!
Bytes as text of 64 letters, digits and signs; three bytes make four of them.
-/
namespace ProxyCheck.Base64

def alphabet : Array Char :=
  "ABCDEFGHIJKLMNOPQRSTUVWXYZabcdefghijklmnopqrstuvwxyz0123456789+/".toList.toArray

def sign (bits : Nat) : Char :=
  alphabet[bits % 64]?.getD 'A'

def signs (bits : Nat) : List Char :=
  [sign (bits / 262144), sign (bits / 4096), sign (bits / 64), sign bits]

/-- Where bytes are missing at the end, equality signs stand for them. -/
def encode : List UInt8 → List Char
  | [] => []
  | [a] => (signs (a.toNat * 65536)).take 2 ++ ['=', '=']
  | [a, b] => (signs (a.toNat * 65536 + b.toNat * 256)).take 3 ++ ['=']
  | a :: b :: c :: rest => signs (a.toNat * 65536 + b.toNat * 256 + c.toNat) ++ encode rest

example : encode [0x4D, 0x61, 0x6E] = ['T', 'W', 'F', 'u'] := by decide +kernel

example : encode [0x75, 0x3A] = ['d', 'T', 'o', '='] := by decide +kernel

theorem length_encode (bytes : List UInt8) :
    (encode bytes).length = (bytes.length + 2) / 3 * 4 := by
  induction bytes using encode.induct with
  | case1 => rfl
  | case2 a => simp [encode, signs]
  | case3 a b => simp [encode, signs]
  | case4 a b c rest ih =>
    simp only [encode, signs, List.length_append, List.length_cons, List.length_nil, ih]
    omega

end ProxyCheck.Base64
