import Mathlib
import ProxyCheck.Text.Hex

/-! Numerals are read back as the numbers that they were written for. -/
namespace ProxyCheck

theorem hexValue?_digitChar (d : Nat) (small : d < 16) : hexValue? d.digitChar = some d := by
  have all : ∀ e ∈ List.range 16, hexValue? e.digitChar = some e := by decide
  exact all d (List.mem_range.mpr small)

theorem digitsValue_snoc (base : Nat) (digits : List Char) (c : Char) :
    digitsValue base (digits ++ [c]) = digitsValue base digits * base + (hexValue? c).getD 0 := by
  simp [digitsValue, List.foldl_append]

theorem digitsValue_toDigits (base n : Nat) (two : 2 ≤ base) (sixteen : base ≤ 16) :
    digitsValue base (Nat.toDigits base n) = n := by
  induction n using Nat.strongRecOn with
  | ind n ih =>
      rw [Nat.toDigits_eq_if (by omega)]
      by_cases small : n < base
      · rw [if_pos small]
        simp [digitsValue, hexValue?_digitChar n (by omega)]
      · have shorter : n / base < n := Nat.div_lt_self (by omega) (by omega)
        have digit : n % base < base := Nat.mod_lt n (by omega)
        rw [if_neg small, digitsValue_snoc, ih (n / base) shorter,
          hexValue?_digitChar (n % base) (by omega), Option.getD_some]
        exact Nat.div_add_mod' n base

theorem head?_toDigits (n : Nat) (positive : 0 < n) : (Nat.toDigits 10 n).head? ≠ some '0' := by
  induction n using Nat.strongRecOn with
  | ind n ih =>
      rw [Nat.toDigits_eq_if (by decide)]
      by_cases small : n < 10
      · have all : ∀ m, m < 10 → 0 < m → m.digitChar ≠ '0' := by decide
        simpa [small] using all n small positive
      · obtain ⟨c, rest, front⟩ := List.exists_cons_of_ne_nil (Nat.toDigits_ne_nil (n := n / 10))
        have first := ih (n / 10) (by omega) (by omega)
        rw [if_neg small]
        rw [front] at first ⊢
        exact first

theorem isHex_of_mem_toDigits (base n : Nat) (two : 2 ≤ base) (sixteen : base ≤ 16) :
    ∀ c ∈ Nat.toDigits base n, isHex c := by
  induction n using Nat.strongRecOn with
  | ind n ih =>
      intro c member
      rw [Nat.toDigits_eq_if (by omega)] at member
      by_cases small : n < base
      · rw [if_pos small, List.mem_singleton] at member
        simp [member, isHex, hexValue?_digitChar n (by omega)]
      · have shorter : n / base < n := Nat.div_lt_self (by omega) (by omega)
        have digit : n % base < base := Nat.mod_lt n (by omega)
        rw [if_neg small, List.mem_append, List.mem_singleton] at member
        rcases member with member | rfl
        · exact ih (n / base) shorter c member
        · simp [isHex, hexValue?_digitChar (n % base) (by omega)]

theorem infix_intercalate {α : Type} (between : List α) (pieces : List (List α)) (piece : List α)
    (member : piece ∈ pieces) : piece <:+: between.intercalate pieces := by
  induction pieces with
  | nil => cases member
  | cons first rest ih =>
      cases rest with
      | nil =>
          rw [List.mem_singleton.mp member, List.intercalate_singleton]
      | cons second rest =>
          rw [List.intercalate_cons_cons]
          rcases List.mem_cons.mp member with rfl | later
          · rw [List.append_assoc]
            exact (List.prefix_append _ _).isInfix
          · exact (ih later).trans (List.suffix_append _ _).isInfix

theorem mem_intercalate (sign : Char) (numerals : List (List Char)) (c : Char)
    (member : c ∈ [sign].intercalate numerals) : c = sign ∨ ∃ digits ∈ numerals, c ∈ digits := by
  induction numerals with
  | nil => cases member
  | cons digits rest ih =>
      by_cases last : rest = []
      · rw [last, List.intercalate_singleton] at member
        exact .inr ⟨digits, List.mem_cons_self, member⟩
      · rw [List.intercalate_cons_of_ne_nil last, List.append_assoc, List.mem_append,
          List.mem_append, List.mem_singleton] at member
        rcases member with here | between | later
        · exact .inr ⟨digits, List.mem_cons_self, here⟩
        · exact .inl between
        · rcases ih later with between | ⟨other, inside, member⟩
          · exact .inl between
          · exact .inr ⟨other, List.mem_cons_of_mem _ inside, member⟩

theorem toList_toString (n : Nat) : (toString n).toList = Nat.toDigits 10 n := by
  rw [Nat.toString_eq_ofList_toDigits, String.toList_ofList]

theorem toList_toString_negSucc (n : Nat) :
    (toString (Int.negSucc n)).toList = '-' :: (toString (n + 1)).toList := by
  have same : toString (Int.negSucc n) = "-" ++ toString (n + 1) := rfl
  rw [same, String.toList_append]
  rfl

theorem isDigit_of_mem_toString (n : Nat) (c : Char) (member : c ∈ (toString n).toList) :
    c.isDigit := by
  rw [toList_toString] at member
  exact Nat.isDigit_of_mem_toDigits (by decide) (by decide) member

theorem toString_injective (m n : Nat) (same : toString m = toString n) : m = n := by
  have digits := congrArg String.toList same
  rw [toList_toString, toList_toString] at digits
  rw [← digitsValue_toDigits 10 m (by decide) (by decide), digits,
    digitsValue_toDigits 10 n (by decide) (by decide)]

end ProxyCheck
