import ProxyCheck.Proofs.Json.Members
import ProxyCheck.Proofs.Json.Numeral

/-! A value that nobody asked for is passed over, whatever it is and however deep. -/
namespace ProxyCheck.JsonReader

open Json (separated memberChars)

theorem head_chars (j : Json) : ∃ c more, j.chars = c :: more ∧ isBlank c = false ∧ c ≠ ']' := by
  cases j with
  | null => exact ⟨'n', _, rfl, by decide, by decide⟩
  | bool b =>
      cases b with
      | true => exact ⟨'t', _, rfl, by decide, by decide⟩
      | false => exact ⟨'f', _, rfl, by decide, by decide⟩
  | string text => exact ⟨'"', _, rfl, by decide, by decide⟩
  | array items => exact ⟨'[', _, rfl, by decide, by decide⟩
  | object members => exact ⟨'\x7B', _, rfl, by decide, by decide⟩
  | number n =>
      rcases isNumeral_text n with numeral | ⟨cs, text, -⟩
      · obtain ⟨c, more, text, digit⟩ := numeral.head
        refine ⟨c, more, text, blank_of_isDigit c digit, ?_⟩
        rintro rfl
        cases digit
      · exact ⟨'-', cs, text, by decide, by decide⟩

theorem hasItem_first (j : Json) (rest : List Char) :
    hasItem true (j.chars ++ rest) = .ok (true, j.chars ++ rest) := by
  obtain ⟨c, more, front, visible, other⟩ := head_chars j
  rw [front, List.cons_append, hasItem, skipBlanks_cons c _ visible]
  split
  · rename_i same
    cases same
  · rename_i same
    exact absurd (List.cons.inj same).1 other
  · rename_i same
    rw [← same]
    rfl

theorem hasItem_next (j : Json) (rest : List Char) :
    hasItem false (',' :: (j.chars ++ rest)) = .ok (true, j.chars ++ rest) := by
  obtain ⟨c, more, front, visible, other⟩ := head_chars j
  rw [front, List.cons_append, hasItem, skipBlanks_cons ',' _ rfl]
  split
  · rename_i same
    cases same
  · rename_i same
    cases same
  · rename_i same
    cases same
    rw [if_neg Bool.false_ne_true, if_pos rfl, skipBlanks_cons c _ visible]
    split
    · rename_i same
      cases same
    · rename_i same
      exact absurd (List.cons.inj same).1 other
    · rfl

theorem hasItem_end (first : Bool) (rest : List Char) :
    hasItem first (']' :: rest) = .ok (false, ']' :: rest) := by
  rw [hasItem, skipBlanks_cons ']' _ rfl]
  rfl

theorem endsValue_items (items : List (List Char)) (rest : List Char) :
    EndsValue (items.flatMap (',' :: ·) ++ ']' :: rest) := by
  cases items with
  | nil => exact .inr (.inr rfl)
  | cons item items => exact .inl rfl

variable {α : Type} (item : JsonReader α) (make : Json → α)

theorem itemsFrom_trailing (fuel : Nat) (xs : List Json) (rest : List Char) (few : xs.length < fuel)
    (reads : ∀ x ∈ xs, ∀ rest, EndsValue rest → item (x.chars ++ rest) = .ok (make x, rest)) :
    itemsFrom item fuel false ((xs.map Json.chars).flatMap (',' :: ·) ++ ']' :: rest) =
      .ok (xs.map make, ']' :: rest) := by
  induction xs generalizing fuel with
  | nil =>
      obtain ⟨fuel, rfl⟩ := Nat.exists_eq_succ_of_ne_zero (Nat.ne_of_gt few)
      rfl
  | cons x xs ih =>
      obtain ⟨fuel, rfl⟩ := Nat.exists_eq_succ_of_ne_zero (Nat.ne_of_gt (Nat.zero_lt_of_lt few))
      have later := ih fuel (Nat.lt_of_succ_lt_succ few) fun y member =>
        reads y (List.mem_cons_of_mem x member)
      have here := reads x List.mem_cons_self _ (endsValue_items (xs.map Json.chars) rest)
      simp only [List.map_cons, List.flatMap_cons, List.cons_append, List.append_assoc]
      rw [itemsFrom, hasItem_next x]
      simp only [bind, Except.bind, if_true, here, later]
      rfl

theorem items_separated (size : Nat) (xs : List Json) (rest : List Char) (few : xs.length ≤ size)
    (reads : ∀ x ∈ xs, ∀ rest, EndsValue rest → item (x.chars ++ rest) = .ok (make x, rest)) :
    items size item (separated (xs.map Json.chars) ++ ']' :: rest) = .ok (xs.map make, rest) := by
  have all : itemsFrom item (size + 1) true (separated (xs.map Json.chars) ++ ']' :: rest) =
      .ok (xs.map make, ']' :: rest) := by
    cases xs with
    | nil => rfl
    | cons x xs =>
        have later := itemsFrom_trailing item make size xs rest few fun y member =>
          reads y (List.mem_cons_of_mem x member)
        have here := reads x List.mem_cons_self _ (endsValue_items (xs.map Json.chars) rest)
        rw [List.map_cons, separated_cons, List.append_assoc, itemsFrom, hasItem_first x]
        simp only [bind, Except.bind, if_true, here, later]
        rfl
  rw [items, all]
  simp only [bind, Except.bind, close_cons ']' rest rfl]
  rfl

theorem skipString_escapeChar (c : Char) (rest : List Char) :
    skipString (Json.escapeChar c ++ rest) = skipString rest := by
  rw [Json.escapeChar]
  split
  · rename_i letter short
    obtain ⟨known, other⟩ := escaped?_shortEscape c letter short
    rw [List.cons_append, List.singleton_append, skipString]
    · exact if_pos (Option.isSome_of_eq_some known)
    · exact other
  · rename_i long
    split
    · rename_i control
      have same : "\\u00".toList ++ [hexDigit (c.toNat / 16), hexDigit (c.toNat % 16)] ++ rest =
          '\\' :: 'u' :: '0' :: '0' :: hexDigit (c.toNat / 16) :: hexDigit (c.toNat % 16) :: rest := rfl
      rw [same, skipString, hexUnit_small c.toNat rest control]
      rfl
    · rw [List.singleton_append, skipString.eq_def]
      split <;> simp_all [Json.shortEscape?]

theorem skipString_escaped (text rest : List Char) :
    skipString (text.flatMap Json.escapeChar ++ '"' :: rest) = .ok ((), rest) := by
  induction text with
  | nil => rw [List.flatMap_nil, List.nil_append, skipString]
  | cons c text ih => rw [List.flatMap_cons, List.append_assoc, skipString_escapeChar, ih]

theorem skipOver_number (size : Nat) (inner : JsonReader Unit) (n : JsonNumber) (rest : List Char)
    (ends : EndsValue rest) : skipOver size inner (n.text ++ rest) = .ok ((), rest) := by
  rcases isNumeral_text n with numeral | ⟨cs, text, numeral⟩
  · have passed := skipNumber_numeral n.text rest numeral ends
    obtain ⟨c, more, text, digit⟩ := numeral.head
    rw [text, List.cons_append] at passed ⊢
    rw [skipOver.eq_def, skipBlanks_cons c _ (blank_of_isDigit c digit)]
    split
    case h_9 same =>
      cases same
      rw [if_pos digit]
      exact passed
    all_goals
      rename_i same
      cases same
    all_goals cases digit
  · rw [text]
    exact skipNumber_numeral cs rest numeral ends

theorem length_chars_array (xs : List Json) :
    xs.length ≤ (Json.array xs).chars.length ∧
      ∀ x ∈ xs, x.chars.length < (Json.array xs).chars.length := by
  have whole : (Json.array xs).chars.length = (separated (xs.map Json.chars)).length + 2 := by
    simp [Json.chars, itemChars_eq_map]
  rw [whole]
  constructor
  · have some : ∀ item ∈ xs.map Json.chars, item ≠ [] := by
      intro item member
      obtain ⟨x, -, rfl⟩ := List.mem_map.mp member
      obtain ⟨c, more, front, -⟩ := head_chars x
      exact front ▸ List.cons_ne_nil c more
    have short := length_le_separated _ some
    rw [List.length_map] at short
    omega
  · intro x member
    have inside : x.chars ∈ xs.map Json.chars := List.mem_map_of_mem member
    have short := length_le_of_mem_separated _ _ inside
    omega

theorem makes_skip (inner : JsonReader Unit) (ms : List (String × Json))
    (passes : ∀ p ∈ ms, ∀ rest, EndsValue rest → inner (p.2.chars ++ rest) = .ok ((), rest)) :
    Makes (fun _ => ()) (fun () () => inner) () ms () := by
  induction ms with
  | nil => exact .nil ()
  | cons p ms ih =>
      exact .cons () () () p.1 p.2 ms (passes p List.mem_cons_self)
        (ih fun q member => passes q (List.mem_cons_of_mem p member))

/-- What a value holds has a shorter text, so that the text's length is depth enough. -/
theorem skipWithin_chars (size depth : Nat) (j : Json) (rest : List Char)
    (few : j.chars.length ≤ size) (deep : j.chars.length ≤ depth) (ends : EndsValue rest) :
    skipWithin size depth (j.chars ++ rest) = .ok ((), rest) := by
  induction depth generalizing j rest with
  | zero =>
      obtain ⟨c, more, front, -⟩ := head_chars j
      rw [front] at deep
      cases deep
  | succ depth ih =>
      rw [skipWithin]
      cases j with
      | null => rfl
      | bool b => cases b <;> rfl
      | number n =>
          rw [Json.chars]
          exact skipOver_number size _ n rest ends
      | string text =>
          rw [Json.chars, quote_append, skipOver, skipBlanks_cons '"' _ rfl]
          exact skipString_escaped text.toList rest
      | array xs =>
          obtain ⟨count, shorter⟩ := length_chars_array xs
          have all := items_separated (skipWithin size depth) (fun _ => ()) size xs rest
            (Nat.le_trans count few) fun x member rest ends =>
              have less := shorter x member
              ih x rest (by omega) (by omega) ends
          have text : (Json.array xs).chars ++ rest =
              '[' :: (separated (xs.map Json.chars) ++ ']' :: rest) := by
            simp [Json.chars, itemChars_eq_map]
          rw [text, skipOver, skipBlanks_cons '[' _ rfl]
          simp only [all]
          rfl
      | object ms =>
          obtain ⟨count, shorter⟩ := length_chars_object ms
          have makes := makes_skip (skipWithin size depth) ms fun p member rest ends =>
            have less := shorter p member
            ih p.2 rest (by omega) (by omega) ends
          have all := members_separated skipString (fun _ => ()) (fun () () => skipWithin size depth)
            (fun key => skipString_escaped key.toList) size () () ms rest makes (Nat.le_trans count few)
          have text : (Json.object ms).chars ++ rest =
              '\x7B' :: (separated (memberChars ms) ++ '\x7D' :: rest) := by
            simp [Json.chars]
          rw [text, skipOver, skipBlanks_cons _ _ rfl]
          simp only [all, bind, Except.bind]
          exact close_cons '\x7D' rest rfl

theorem skip_chars (size : Nat) (j : Json) (rest : List Char) (few : j.chars.length ≤ size)
    (ends : EndsValue rest) : skip size (j.chars ++ rest) = .ok ((), rest) :=
  skipWithin_chars size (size + 1) j rest few (Nat.le_succ_of_le few) ends

end ProxyCheck.JsonReader
