/-!
Lengths of time, to the nanosecond.
-/
namespace ProxyCheck

structure Duration where
  secs : UInt64
  nanos : Fin 1000000000
  deriving DecidableEq, Repr

namespace Duration

def ofMillis (n : Nat) : Duration :=
  ⟨UInt64.ofNat (n / 1000), Fin.ofNat 1000000000 (n % 1000 * 1000000)⟩

def millis (d : Duration) : UInt64 :=
  d.secs * 1000 + UInt64.ofNat (d.nanos / 1000000)

theorem toNat_millis (d : Duration) :
    d.millis.toNat = (d.secs.toNat * 1000 + d.nanos / 1000000) % UInt64.size := by
  simp [millis, UInt64.toNat_add, UInt64.toNat_mul, Nat.add_mod]

example : (ofMillis 1234567).millis = 1234567 := by decide

end Duration

end ProxyCheck
