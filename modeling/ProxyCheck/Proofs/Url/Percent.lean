import ProxyCheck.Proofs.Text.Visible
import ProxyCheck.Url.Parser

/-! What percent-encoding leaves: characters that the part of a URL may have, and signs of its own. -/
namespace ProxyCheck.Percent

def signs : List Char :=
  "%0123456789ABCDEF".toList

theorem hexDigitUpper_mem_signs (n : Nat) (small : n < 16) : hexDigitUpper n ∈ signs := by
  have all : ∀ m, m < 16 → hexDigitUpper m ∈ signs := by decide
  exact all n small

theorem mem_encodeByte (b : UInt8) (c : Char) (member : c ∈ encodeByte b) : c ∈ signs := by
  have high : b.toNat / 16 < 16 := Nat.div_lt_of_lt_mul b.toNat_lt
  have low : b.toNat % 16 < 16 := Nat.mod_lt _ (by decide)
  simp only [encodeByte, List.mem_cons, List.not_mem_nil, or_false] at member
  rcases member with rfl | rfl | rfl
  · decide
  · exact hexDigitUpper_mem_signs _ high
  · exact hexDigitUpper_mem_signs _ low

theorem mem_encode (set : EncodeSet) (text : List Char) (c : Char) (member : c ∈ encode set text) :
    (c ∈ text ∧ keeps set c) ∨ c ∈ signs := by
  rcases List.mem_flatMap.mp member with ⟨d, source, member⟩
  rw [encodeChar] at member
  by_cases kept : keeps set d
  · rw [if_pos kept, List.mem_singleton] at member
    exact .inl ⟨member ▸ source, member ▸ kept⟩
  · rw [if_neg kept] at member
    rcases List.mem_flatMap.mp member with ⟨b, -, member⟩
    exact .inr (mem_encodeByte b c member)

theorem keeps_of_mem_encode (set : EncodeSet) (kept : ∀ c ∈ signs, keeps set c) (text : List Char) :
    ∀ c ∈ encode set text, keeps set c := by
  intro c member
  rcases mem_encode set text c member with ⟨-, keeps⟩ | sign
  · exact keeps
  · exact kept c sign

theorem encode_eq_self (set : EncodeSet) (text : List Char) (kept : ∀ c ∈ text, keeps set c) :
    encode set text = text := by
  induction text with
  | nil => rfl
  | cons c rest ih =>
      rw [encode_cons, encodeChar, if_pos (kept c List.mem_cons_self),
        ih fun d member => kept d (List.mem_cons_of_mem _ member)]
      rfl

theorem encodeChar_of_not_keeps (set : EncodeSet) (c : Char) (other : ¬keeps set c) :
    ∃ rest, encodeChar set c = '%' :: rest := by
  obtain ⟨b, bytes, same⟩ := List.exists_cons_of_ne_nil (String.utf8EncodeChar_ne_nil (c := c))
  rw [encodeChar, if_neg other, same]
  exact ⟨_, rfl⟩

theorem encodeChar_ne_nil (set : EncodeSet) (c : Char) : encodeChar set c ≠ [] := by
  by_cases kept : keeps set c
  · rw [encodeChar, if_pos kept]
    exact List.cons_ne_nil _ _
  · obtain ⟨rest, same⟩ := encodeChar_of_not_keeps set c kept
    rw [same]
    exact List.cons_ne_nil _ _

theorem keeps_of_encode (set : EncodeSet) (text : List Char) (absent : '%' ∉ encode set text) :
    ∀ c ∈ text, keeps set c := by
  intro c member
  by_contra other
  obtain ⟨rest, same⟩ := encodeChar_of_not_keeps set c other
  exact absent (List.mem_flatMap.mpr ⟨c, member, same ▸ List.mem_cons_self⟩)

theorem encode_ne_nil (set : EncodeSet) (text : List Char) (nonempty : text ≠ []) :
    encode set text ≠ [] := by
  cases text with
  | nil => exact absurd rfl nonempty
  | cons c rest =>
      rw [encode_cons]
      exact List.append_ne_nil_of_left_ne_nil (encodeChar_ne_nil set c) _

theorem ascii_of_keeps (set : EncodeSet) (c : Char) (kept : keeps set c) : c.toNat < 0x80 := by
  simp only [keeps, Bool.and_eq_true, decide_eq_true_eq] at kept
  exact kept.1

theorem of_keeps_userinfo (c : Char) (kept : keeps userinfo c) :
    isVisible c ∧ c ≠ ':' ∧ c ≠ '@' ∧ Url.endsAuthority true c = false :=
  of_ascii
    (fun c => keeps userinfo c →
      isVisible c ∧ c ≠ ':' ∧ c ≠ '@' ∧ Url.endsAuthority true c = false)
    (by decide) c (ascii_of_keeps _ c kept) kept

theorem of_keeps_path (c : Char) (kept : keeps path c) : isVisible c ∧ Url.endsPath c = false :=
  of_ascii (fun c => keeps path c → isVisible c ∧ Url.endsPath c = false) (by decide) c
    (ascii_of_keeps _ c kept) kept

theorem of_keeps_query (c : Char) (kept : keeps query c) : isVisible c ∧ c ≠ '#' :=
  of_ascii (fun c => keeps query c → isVisible c ∧ c ≠ '#') (by decide) c
    (ascii_of_keeps _ c kept) kept

theorem query_of_specialQuery (c : Char) (kept : keeps specialQuery c) : keeps query c := by
  simp only [keeps, specialQuery, Bool.and_eq_true, Bool.not_eq_true', Bool.or_eq_false_iff] at kept ⊢
  exact ⟨kept.1, kept.2.1⟩

theorem of_keeps_fragment (c : Char) (kept : keeps fragment c) : isVisible c :=
  of_ascii (fun c => keeps fragment c → isVisible c) (by decide) c (ascii_of_keeps _ c kept) kept

theorem signs_kept : ∀ c ∈ signs, keeps control c ∧ keeps userinfo c ∧ keeps path c ∧
    keeps query c ∧ keeps specialQuery c ∧ keeps fragment c :=
  of_mem _ signs (by decide)

end ProxyCheck.Percent
