import ProxyCheck.Proofs.Url.RoundTrip

/-! The scheme that the text of a URL begins with: letters, digits and three signs, in lower case once
it is read. -/
namespace ProxyCheck.Url

theorem ascii_of_isAlphanum (c : Char) (plain : c.isAlphanum) : c.toNat < 0x80 := by
  simp only [Char.isAlphanum, Char.isAlpha, Char.isUpper, Char.isLower, Char.isDigit, Bool.or_eq_true,
    Bool.and_eq_true, decide_eq_true_eq, ge_iff_le, UInt32.le_iff_toNat_le] at plain
  have same : c.toNat = c.val.toNat := rfl
  have upper : 'Z'.val.toNat = 90 := rfl
  have lower : 'z'.val.toNat = 122 := rfl
  have digit : '9'.val.toNat = 57 := rfl
  omega

theorem ascii_of_isSchemeChar (c : Char) (schemed : isSchemeChar c) : c.toNat < 0x80 := by
  simp only [isSchemeChar, Bool.or_eq_true, beq_iff_eq] at schemed
  rcases schemed with ((plain | rfl) | rfl) | rfl
  · exact ascii_of_isAlphanum c plain
  · decide
  · decide
  · decide

theorem of_isSchemeChar (c : Char) (schemed : isSchemeChar c) :
    isVisible c ∧ c ≠ ':' ∧ isSchemeChar c.toLower ∧ c.toLower.toLower = c.toLower ∧
      isVisible c.toLower ∧ (c.isAlpha → c.toLower.isAlpha) :=
  of_ascii (fun c => isSchemeChar c → isVisible c ∧ c ≠ ':' ∧ isSchemeChar c.toLower ∧
    c.toLower.toLower = c.toLower ∧ isVisible c.toLower ∧ (c.isAlpha → c.toLower.isAlpha))
    (by decide) c (ascii_of_isSchemeChar c schemed) schemed

theorem of_splitScheme (cs rest : List Char) (scheme : String)
    (split : splitScheme cs = some (scheme, rest)) :
    ∃ raw, cs = raw ++ ':' :: rest ∧ raw.head?.any Char.isAlpha ∧ (∀ c ∈ raw, isSchemeChar c) ∧
      scheme = String.ofList (raw.map Char.toLower) := by
  rw [splitScheme] at split
  split at split
  · rename_i letter
    have whole := List.takeWhile_append_dropWhile (p := isSchemeChar) (l := cs)
    split at split
    · rename_i found
      cases split
      rw [found] at whole
      refine ⟨_, whole.symm, ?_, fun c member => List.mem_takeWhile_imp member, rfl⟩
      cases cs with
      | nil => cases letter
      | cons c cs =>
          have plain : isSchemeChar c := by
            have alpha : c.isAlpha := letter
            simp [isSchemeChar, Char.isAlphanum, alpha]
          rw [List.takeWhile_cons_of_pos plain]
          exact letter
    · cases split
  · cases split

theorem isSpelled_lower (raw : List Char) (letter : raw.head?.any Char.isAlpha)
    (schemed : ∀ c ∈ raw, isSchemeChar c) : isSpelled (String.ofList (raw.map Char.toLower)) := by
  rw [isSpelled, String.toList_ofList, Bool.and_eq_true, List.all_eq_true]
  constructor
  · cases raw with
    | nil => cases letter
    | cons c raw => exact (of_isSchemeChar c (schemed c List.mem_cons_self)).2.2.2.2.2 letter
  · intro c member
    obtain ⟨d, source, rfl⟩ := List.mem_map.mp member
    obtain ⟨-, -, lower, again, visible, -⟩ := of_isSchemeChar d (schemed d source)
    simp [lower, again, visible]

/-- The scheme of a URL is the one that its text begins with, and is spelled as it is written. -/
theorem splitScheme_of_ofChars (text : List Char) (u : Url) (read : ofChars text = .ok u) :
    isSpelled u.scheme ∧ ∃ rest, splitScheme (clean text) = some (u.scheme, rest) := by
  obtain ⟨rest, split, -⟩ := readAs_of_ofChars text u read
  obtain ⟨raw, -, letter, schemed, same⟩ := of_splitScheme _ rest u.scheme split
  rw [same]
  exact ⟨isSpelled_lower raw letter schemed, rest, same ▸ split⟩

end ProxyCheck.Url
