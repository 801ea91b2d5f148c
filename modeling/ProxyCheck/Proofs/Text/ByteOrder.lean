import Mathlib
import ProxyCheck.Text.Utf8

/-! Texts are ordered as their bytes are. -/
namespace ProxyCheck.Utf8

def Precedes (a b : List UInt8) : Prop :=
  ∀ s t, a ++ s < b ++ t

theorem precedes_of_lt (m n : Nat) (p q : List UInt8) (less : m < n) (small : n < 256) :
    Precedes (UInt8.ofNat m :: p) (UInt8.ofNat n :: q) := by
  have byte : UInt8.ofNat m < UInt8.ofNat n := by
    rw [UInt8.lt_iff_toNat_lt, UInt8.toNat_ofNat_of_lt' (Nat.lt_trans less small),
      UInt8.toNat_ofNat_of_lt' small]
    exact less
  intro s t
  exact List.Lex.rel byte

theorem precedes_of_le (m n : Nat) (p q : List UInt8) (bound : m ≤ n) (small : n < 256)
    (rest : m = n → Precedes p q) : Precedes (UInt8.ofNat m :: p) (UInt8.ofNat n :: q) := by
  rcases Nat.lt_or_eq_of_le bound with less | same
  · exact precedes_of_lt m n p q less small
  · intro s t
    rw [same]
    exact List.Lex.cons (rest same s t)

/-- A greater number has no shorter form, and of two forms the longer has the greater first byte. -/
theorem precedes_encodeChar (c d : Char) (less : c < d) :
    Precedes (String.utf8EncodeChar c) (String.utf8EncodeChar d) := by
  have less : c.val.toNat < d.val.toNat := less
  have bound : d.val.toNat < 0x110000 := by
    rcases d.valid with low | ⟨-, high⟩
    · exact Nat.lt_trans low (by decide)
    · exact high
  simp only [String.utf8EncodeChar]
  generalize c.val.toNat = m at less
  generalize d.val.toNat = n at less bound
  by_cases one : m ≤ 0x7F
  · rw [if_pos one]
    split_ifs
    · exact precedes_of_lt _ _ _ _ less (by omega)
    all_goals exact precedes_of_lt _ _ _ _ (by omega) (by omega)
  rw [if_neg one, if_neg (show ¬n ≤ 0x7F by omega)]
  by_cases two : m ≤ 0x7FF
  · rw [if_pos two]
    split_ifs
    · refine precedes_of_le _ _ _ _ (by omega) (by omega) fun first => ?_
      exact precedes_of_lt _ _ _ _ (by omega) (by omega)
    all_goals exact precedes_of_lt _ _ _ _ (by omega) (by omega)
  rw [if_neg two, if_neg (show ¬n ≤ 0x7FF by omega)]
  by_cases three : m ≤ 0xFFFF
  · rw [if_pos three]
    split_ifs
    · refine precedes_of_le _ _ _ _ (by omega) (by omega) fun first => ?_
      refine precedes_of_le _ _ _ _ (by omega) (by omega) fun second => ?_
      exact precedes_of_lt _ _ _ _ (by omega) (by omega)
    · exact precedes_of_lt _ _ _ _ (by omega) (by omega)
  rw [if_neg three, if_neg (show ¬n ≤ 0xFFFF by omega)]
  refine precedes_of_le _ _ _ _ (by omega) (by omega) fun first => ?_
  refine precedes_of_le _ _ _ _ (by omega) (by omega) fun second => ?_
  refine precedes_of_le _ _ _ _ (by omega) (by omega) fun third => ?_
  exact precedes_of_lt _ _ _ _ (by omega) (by omega)

theorem encode_lt (s t : List Char) (less : s < t) : encode s < encode t := by
  induction less with
  | nil =>
      rename_i c rest
      have some : encode (c :: rest) ≠ [] := by simp [encode, String.utf8EncodeChar_ne_nil]
      obtain ⟨b, bytes, first⟩ := List.exists_cons_of_ne_nil some
      rw [first]
      exact List.Lex.nil
  | rel less => exact precedes_encodeChar _ _ less _ _
  | cons rest ih => exact List.Lex.append_left (· < ·) ih _

theorem lt_iff_encode_lt (s t : String) : s < t ↔ encode s.toList < encode t.toList := by
  rw [String.lt_iff_toList_lt]
  constructor
  · exact encode_lt s.toList t.toList
  · intro bytes
    rcases lt_trichotomy s.toList t.toList with less | same | more
    · exact less
    · rw [same] at bytes
      exact absurd bytes (List.lt_irrefl _)
    · exact absurd (encode_lt t.toList s.toList more) (List.lt_asymm bytes)

end ProxyCheck.Utf8
