import ProxyCheck.Proofs.Text.Digits
import ProxyCheck.Url.Ipv4

/-! The text of an IPv4 address is read as that address. -/
namespace ProxyCheck.Ipv4

def octets (a : Ipv4) : List Nat :=
  let n := a.bits.toNat
  [n >>> 24, n >>> 16 % 256, n >>> 8 % 256, n % 256]

theorem octets_small (a : Ipv4) : ∀ n ∈ a.octets, n < 256 := by
  have bound : a.bits.toNat < 2 ^ 32 := a.bits.toNat_lt
  intro n member
  simp only [octets, List.mem_cons, List.not_mem_nil, or_false, Nat.shiftRight_eq_div_pow] at member
  rcases member with rfl | rfl | rfl | rfl <;> omega

theorem toList_text (a : Ipv4) :
    a.text.toList = ['.'].intercalate (a.octets.map (Nat.toDigits 10)) := by
  simp [text, octets, List.intercalate]

theorem readNumber?_octet : ∀ n, n < 256 → readNumber? (Nat.toDigits 10 n) = some n := by
  decide +kernel

theorem splitOn_text (a : Ipv4) :
    a.text.toList.splitOn '.' = a.octets.map (Nat.toDigits 10) := by
  have undotted : ∀ digits ∈ a.octets.map (Nat.toDigits 10), '.' ∉ digits := by
    intro digits member dot
    rcases List.mem_map.mp member with ⟨n, octet, rfl⟩
    have digit := Nat.isDigit_of_mem_toDigits (by decide) (by decide) dot
    exact absurd digit (by decide)
  rw [toList_text]
  exact List.splitOn_intercalate '.' undotted (by simp [octets])

theorem parts_text (a : Ipv4) : parts a.text.toList = a.octets.map (Nat.toDigits 10) := by
  have last : (a.octets.map (Nat.toDigits 10)).getLast? ≠ some [] := by
    intro empty
    rcases List.mem_map.mp (List.mem_of_getLast? empty) with ⟨n, octet, same⟩
    exact Nat.toDigits_ne_nil same
  rw [parts, splitOn_text, if_neg last]

theorem looksNumeric_text (a : Ipv4) : looksNumeric a.text.toList := by
  have digits : ∀ c ∈ Nat.toDigits 10 (a.bits.toNat % 256), c.isDigit :=
    fun c member => Nat.isDigit_of_mem_toDigits (by decide) (by decide) member
  have last : (a.octets.map (Nat.toDigits 10)).getLast? =
      some (Nat.toDigits 10 (a.bits.toNat % 256)) := by simp [octets]
  rw [looksNumeric, parts_text, last]
  simp [Nat.toDigits_ne_nil, List.all_eq_true.mpr digits]

theorem looksNumeric_digits (digits : List Char) (all : ∀ c ∈ digits, c.isDigit)
    (nonempty : digits ≠ []) : looksNumeric digits := by
  have dotless : '.' ∉ digits := fun member => absurd (all '.' member) (by decide)
  have last : [digits].getLast? ≠ some [] := by simpa using nonempty
  rw [looksNumeric, parts, List.splitOn_eq_singleton dotless, if_neg last]
  simp [nonempty, List.all_eq_true.mpr all]

theorem ofNumbers?_octets (a : Ipv4) : ofNumbers? a.octets = some a := by
  have bound : a.bits.toNat < 2 ^ 32 := a.bits.toNat_lt
  have small := a.octets_small
  simp only [octets, List.mem_cons, List.not_mem_nil, or_false, forall_eq_or_imp, forall_eq] at small
  rcases small with ⟨first, second, third, fourth⟩
  simp only [ofNumbers?, octets, List.getLast?_cons, List.getLast?_nil, Option.getD_none,
    Option.getD_some, List.dropLast_cons_cons, List.dropLast_singleton, List.length_cons,
    List.length_nil, List.all_cons, List.all_nil, List.foldl_cons, List.foldl_nil]
  rw [if_pos]
  · apply congrArg some
    have bits : ((0 * 256 + a.bits.toNat >>> 24) * 256 + a.bits.toNat >>> 16 % 256) * 256 +
        a.bits.toNat >>> 8 % 256 = a.bits.toNat / 256 := by
      simp only [Nat.shiftRight_eq_div_pow]
      omega
    rw [bits, Nat.shiftLeft_eq, Nat.div_add_mod', UInt32.ofNat_toNat]
  · simp only [decide_eq_true first, decide_eq_true second, decide_eq_true third]
    refine ⟨by decide, ?_, rfl⟩
    rw [Nat.shiftRight_eq_div_pow]
    omega

theorem ofName?_text (a : Ipv4) : ofName? a.text.toList = some a := by
  have read : (a.octets.map (Nat.toDigits 10)).mapM readNumber? = some a.octets := by
    have each := a.octets_small
    generalize a.octets = octets at each ⊢
    induction octets with
    | nil => rfl
    | cons n rest ih =>
        rw [List.map_cons, List.mapM_cons, readNumber?_octet n (each n List.mem_cons_self),
          ih fun m member => each m (List.mem_cons_of_mem _ member)]
        rfl
  rw [ofName?, parts_text, read]
  exact a.ofNumbers?_octets

theorem mem_text (a : Ipv4) : ∀ c ∈ a.text.toList, c.isDigit ∨ c = '.' := by
  intro c member
  rw [toList_text] at member
  rcases mem_intercalate '.' _ c member with dot | ⟨digits, inside, member⟩
  · exact .inr dot
  · rcases List.mem_map.mp inside with ⟨n, octet, rfl⟩
    exact .inl (Nat.isDigit_of_mem_toDigits (by decide) (by decide) member)

theorem text_ne_nil (a : Ipv4) : a.text.toList ≠ [] := by
  intro empty
  have numeric := a.looksNumeric_text
  rw [empty] at numeric
  cases numeric

end ProxyCheck.Ipv4
