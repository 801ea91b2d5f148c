import ProxyCheck.Proofs.Text.Digits
import ProxyCheck.Url.Ipv6

/-! The text of an IPv6 address is read as that address. -/
namespace ProxyCheck.Ipv6

theorem takeWhile_zeros (words : List UInt16) :
    List.take (words.takeWhile (· == 0)).length words =
      List.replicate (words.takeWhile (· == 0)).length 0 := by
  induction words with
  | nil => rfl
  | cons w rest ih =>
      by_cases zero : w = 0
      · simp [zero, List.replicate_succ, ih]
      · simp [zero]

theorem longestZeros_spec (words : List UInt16) (place start length : Nat)
    (found : longestZeros place words = (start, length)) (some : 0 < length) :
    place ≤ start ∧ start - place + length ≤ words.length ∧
      List.take length (List.drop (start - place) words) = List.replicate length 0 := by
  induction words generalizing place start length with
  | nil =>
      cases found
      exact absurd some (Nat.lt_irrefl 0)
  | cons w rest ih =>
      rw [longestZeros] at found
      simp only at found
      split at found
      · cases found
        have short := (List.takeWhile_sublist (fun z : UInt16 => z == 0) (l := w :: rest)).length_le
        rw [Nat.sub_self, Nat.zero_add, List.drop_zero]
        exact ⟨Nat.le_refl place, short, takeWhile_zeros (w :: rest)⟩
      · rcases ih (place + 1) start length found some with ⟨low, inside, zeros⟩
        have next : start - place = start - (place + 1) + 1 := by omega
        rw [next, List.drop_succ_cons, List.length_cons]
        exact ⟨by omega, by omega, zeros⟩

theorem hexText_ne_nil (w : UInt16) : hexText w ≠ [] :=
  Nat.toDigits_ne_nil

theorem isHex_of_mem_hexText (w : UInt16) : ∀ c ∈ hexText w, isHex c :=
  isHex_of_mem_toDigits 16 w.toNat (by decide) (by decide)

theorem length_hexText (w : UInt16) : (hexText w).length ≤ 4 :=
  (Nat.length_toDigits_le_iff (by decide) (by decide)).mpr w.toNat_lt

theorem digitsValue_hexText (w : UInt16) : digitsValue 16 (hexText w) = w.toNat :=
  digitsValue_toDigits 16 w.toNat (by decide) (by decide)

theorem takeWhile_hexText (w : UInt16) (rest : List Char) (ends : rest.head?.all (!isHex ·)) :
    ((hexText w ++ rest).take 4).takeWhile isHex = hexText w := by
  have short := length_hexText w
  rw [List.take_append, List.take_of_length_le short,
    List.takeWhile_append_of_pos (isHex_of_mem_hexText w)]
  have stops : (rest.take (4 - (hexText w).length)).takeWhile isHex = [] := by
    cases rest with
    | nil => simp
    | cons c rest =>
        have other : isHex c = false := by simpa using ends
        cases 4 - (hexText w).length <;> simp [other]
  rw [stops, List.append_nil]

theorem hexText_cons (w : UInt16) : ∃ c rest, hexText w = c :: rest ∧ c ≠ ':' := by
  rcases List.exists_cons_of_ne_nil (hexText_ne_nil w) with ⟨c, rest, same⟩
  refine ⟨c, rest, same, ?_⟩
  rintro rfl
  have hex := isHex_of_mem_hexText w ':' (same ▸ List.mem_cons_self)
  exact absurd hex (by decide)

theorem readPieces_last (fuel : Nat) (d : Draft) (w : UInt16) (room : d.size ≠ 8) :
    readPieces (fuel + 1) d (hexText w) = some (d.add w.toNat) := by
  have digits := takeWhile_hexText w [] rfl
  have value := digitsValue_hexText w
  obtain ⟨c, rest, same, first⟩ := hexText_cons w
  rw [List.append_nil] at digits
  rw [same] at digits value ⊢
  rw [readPieces, if_neg room, if_neg first]
  simp only
  rw [digits, List.drop_length, value]

theorem readPieces_next (fuel : Nat) (d : Draft) (w : UInt16) (next : List Char)
    (room : d.size ≠ 8) (more : next ≠ []) :
    readPieces (fuel + 1) d (hexText w ++ ':' :: next) = readPieces fuel (d.add w.toNat) next := by
  have digits := takeWhile_hexText w (':' :: next) rfl
  have value := digitsValue_hexText w
  obtain ⟨c, rest, same, first⟩ := hexText_cons w
  rw [same] at digits value ⊢
  rw [List.cons_append] at digits ⊢
  rw [readPieces, if_neg room, if_neg first]
  simp only
  rw [digits, value, ← List.cons_append, List.drop_left]
  cases next with
  | nil => exact absurd rfl more
  | cons e next => rfl

def Draft.addAll (d : Draft) (words : List UInt16) : Draft :=
  { d with pieces := d.pieces ++ words.map UInt16.toNat }

theorem addAll_cons (d : Draft) (w : UInt16) (words : List UInt16) :
    d.addAll (w :: words) = (d.add w.toNat).addAll words := by
  simp [Draft.addAll, Draft.add]

theorem size_open (pieces : List Nat) : Draft.size ⟨pieces, none⟩ = pieces.length := rfl

theorem size_gap (pieces : List Nat) (k : Nat) :
    Draft.size ⟨pieces, some k⟩ = pieces.length + 1 := rfl

theorem size_add (d : Draft) (piece : Nat) : (d.add piece).size = d.size + 1 := by
  rw [Draft.size, Draft.add, List.length_append, List.length_singleton]
  exact Nat.add_right_comm _ _ _

theorem colonText_cons (w : UInt16) (words : List UInt16) (more : words ≠ []) :
    colonText (w :: words) = hexText w ++ ':' :: colonText words := by
  rw [colonText, List.map_cons, List.intercalate_cons_of_ne_nil (by simpa using more)]
  simp [colonText]

theorem colonText_singleton (w : UInt16) : colonText [w] = hexText w :=
  List.intercalate_singleton

theorem length_colonText (words : List UInt16) : words.length ≤ (colonText words).length := by
  induction words with
  | nil => exact Nat.zero_le _
  | cons w words ih =>
      have some := List.length_pos_iff.mpr (hexText_ne_nil w)
      by_cases last : words = []
      · rw [last, colonText_singleton]
        exact some
      · rw [colonText_cons w words last, List.length_append, List.length_cons, List.length_cons]
        omega

theorem colonText_ne_nil (words : List UInt16) (some : words ≠ []) : colonText words ≠ [] := by
  have long := length_colonText words
  have count := List.length_pos_iff.mpr some
  exact List.length_pos_iff.mp (by omega)

theorem readPieces_all (fuel : Nat) (d : Draft) (words : List UInt16)
    (room : d.size + words.length ≤ 8) (enough : words.length < fuel) :
    readPieces fuel d (colonText words) = some (d.addAll words) := by
  induction words generalizing fuel d with
  | nil =>
      cases fuel with
      | zero => cases enough
      | succ fuel => simp [colonText, readPieces, Draft.addAll]
  | cons w words ih =>
      rw [List.length_cons] at room enough
      cases fuel with
      | zero => cases enough
      | succ fuel =>
          by_cases last : words = []
          · rw [last, colonText_singleton, readPieces_last fuel d w (by omega), addAll_cons]
            simp [Draft.addAll]
          · rw [colonText_cons w words last,
              readPieces_next fuel d w _ (by omega) (colonText_ne_nil words last), addAll_cons]
            exact ih fuel (d.add w.toNat) (by rw [size_add]; omega) (by omega)

theorem readPieces_colon (fuel : Nat) (d : Draft) (words : List UInt16) (next : List Char)
    (some : words ≠ []) (room : d.size + words.length ≤ 8) (more : next ≠ []) :
    readPieces (fuel + words.length) d (colonText words ++ ':' :: next) =
      readPieces fuel (d.addAll words) next := by
  induction words generalizing d with
  | nil => exact absurd rfl some
  | cons w words ih =>
      rw [List.length_cons] at room ⊢
      by_cases last : words = []
      · rw [last, colonText_singleton, addAll_cons]
        rw [List.length_nil, Nat.zero_add, readPieces_next fuel d w next (by omega) more]
        simp [Draft.addAll]
      · rw [colonText_cons w words last, List.append_assoc, List.cons_append, ← Nat.add_assoc,
          readPieces_next _ d w _ (by omega) (by simp), addAll_cons]
        exact ih (d.add w.toNat) last (by rw [size_add]; omega)

theorem ofPieces?_pieces (a : Ipv6) : ofPieces? (a.pieces.map UInt16.toNat) = some a := by
  have words : (a.pieces.map UInt16.toNat).map UInt16.ofNat = a.pieces := by
    simp [Function.comp_def]
  rw [ofPieces?]
  simp only [words]
  rw [dif_pos a.length_pieces]

theorem colonText_head (words : List UInt16) (some : words ≠ []) :
    ∃ c rest, colonText words = c :: rest ∧ c ≠ ':' := by
  rcases List.exists_cons_of_ne_nil some with ⟨w, words, rfl⟩
  obtain ⟨c, rest, same, first⟩ := hexText_cons w
  by_cases last : words = []
  · rw [last, colonText_singleton]
    exact ⟨c, rest, same, first⟩
  · rw [colonText_cons w words last, same]
    exact ⟨c, _, rfl, first⟩

theorem ofText?_of_head (c : Char) (rest : List Char) (long : rest ≠ []) (first : c ≠ ':') :
    ofText? (c :: rest) =
      (readPieces (rest.length + 2) ⟨[], none⟩ (c :: rest)).bind fun d => ofPieces? d.fill := by
  have length : 1 ≤ rest.length := List.length_pos_iff.mpr long
  simp [ofText?, guard, length, first]

theorem ofText?_colons (rest : List Char) :
    ofText? (':' :: ':' :: rest) =
      (readPieces (rest.length + 1) ⟨[], some 0⟩ rest).bind fun d => ofPieces? d.fill := by
  simp [ofText?, guard]

/-- With the zeros that the double colon stands for, the pieces are those of the address. -/
theorem fill_split (words : List UInt16) (start length : Nat) (eight : words.length = 8)
    (inside : start + length ≤ 8)
    (zeros : List.take length (List.drop start words) = List.replicate length 0) :
    Draft.fill ⟨(List.take start words ++ List.drop (start + length) words).map UInt16.toNat,
      some start⟩ = words.map UInt16.toNat := by
  have front : (List.take start words).length = start := by
    rw [List.length_take]
    omega
  have back : (List.drop (start + length) words).length = 8 - (start + length) := by
    rw [List.length_drop, eight]
  have parts : words = List.take start words ++ (List.replicate length 0 ++
      List.drop (start + length) words) := by
    rw [← zeros, ← List.drop_drop, List.take_append_drop, List.take_append_drop]
  have gap : 8 - (start + (8 - (start + length))) = length := by omega
  rw [Draft.fill]
  simp only [List.map_append, List.length_append, List.length_map, front, back, gap]
  rw [List.take_left' (by rw [List.length_map, front]),
    List.drop_left' (by rw [List.length_map, front])]
  conv => rhs; rw [parts]
  simp

theorem readPieces_gap (fuel : Nat) (d : Draft) (next : List Char) (room : d.size ≠ 8)
    (first : d.gap = none) :
    readPieces (fuel + 1) d (':' :: next) =
      readPieces fuel { d with gap := some d.pieces.length } next := by
  rw [readPieces, if_neg room, if_pos rfl, first]
  rfl

theorem ofText?_colonText (a : Ipv6) : ofText? (colonText a.pieces) = some a := by
  have eight := a.length_pieces
  have nonempty : a.pieces ≠ [] := by
    intro empty
    rw [empty] at eight
    cases eight
  obtain ⟨c, rest, same, first⟩ := colonText_head a.pieces nonempty
  have long := length_colonText a.pieces
  rw [same, eight, List.length_cons] at long
  have more : rest ≠ [] := List.length_pos_iff.mp (by omega)
  have room : Draft.size ⟨[], none⟩ + a.pieces.length ≤ 8 := by
    rw [eight, size_open]
    exact Nat.le_refl 8
  rw [same, ofText?_of_head c rest more first, ← same,
    readPieces_all _ _ a.pieces room (by omega), Option.bind_some]
  exact a.ofPieces?_pieces

theorem readPieces_front (tail : List UInt16) (short : tail.length ≤ 6) :
    ofText? (':' :: ':' :: colonText tail) =
      ofPieces? (Draft.fill ⟨tail.map UInt16.toNat, some 0⟩) := by
  have enough := length_colonText tail
  have room : Draft.size ⟨[], some 0⟩ + tail.length ≤ 8 := by
    rw [size_gap, List.length_nil]
    omega
  rw [ofText?_colons, readPieces_all _ _ tail room (by omega)]
  rfl

theorem readPieces_middle (front tail : List UInt16) (some : front ≠ [])
    (short : front.length + tail.length ≤ 6) :
    ofText? (colonText front ++ ':' :: ':' :: colonText tail) =
      ofPieces? (Draft.fill ⟨(front ++ tail).map UInt16.toNat, .some front.length⟩) := by
  obtain ⟨c, rest, same, first⟩ := colonText_head front some
  have long := length_colonText front
  have enough := length_colonText tail
  have size := congrArg List.length same
  rw [List.length_cons] at size
  have fuel : ∃ n, (rest ++ ':' :: ':' :: colonText tail).length + 2 = n + 1 + front.length ∧
      tail.length < n := by
    refine ⟨rest.length + (colonText tail).length + 3 - front.length, ?_, by omega⟩
    rw [List.length_append, List.length_cons, List.length_cons]
    omega
  rcases fuel with ⟨n, count, above⟩
  have room : Draft.size ⟨[], none⟩ + front.length ≤ 8 := by
    rw [size_open, List.length_nil]
    omega
  have full : Draft.size (Draft.addAll ⟨[], none⟩ front) ≠ 8 := by
    rw [Draft.addAll, size_open, List.nil_append, List.length_map]
    omega
  have left : Draft.size ⟨front.map UInt16.toNat, .some front.length⟩ + tail.length ≤ 8 := by
    rw [size_gap, List.length_map]
    omega
  rw [same, List.cons_append, ofText?_of_head c _ (by simp) first, count, ← List.cons_append, ← same,
    readPieces_colon (n + 1) _ front _ some room (List.cons_ne_nil _ _),
    readPieces_gap n _ _ full rfl]
  simp only [Draft.addAll, List.nil_append, List.length_map]
  rw [readPieces_all n _ tail left above, Option.bind_some, Draft.addAll, List.map_append]

theorem ofText?_chars (a : Ipv6) : ofText? a.chars = some a := by
  have eight := a.length_pieces
  rw [chars]
  cases found : longestZeros 0 a.pieces with
  | mk start length =>
      simp only
      by_cases short : length < 2
      · rw [if_pos short]
        exact a.ofText?_colonText
      · obtain ⟨-, inside, zeros⟩ :=
          longestZeros_spec a.pieces 0 start length found (by omega)
        rw [Nat.sub_zero] at inside zeros
        rw [eight] at inside
        have filled := fill_split a.pieces start length eight inside zeros
        have front : (List.take start a.pieces).length = start := by
          rw [List.length_take]
          omega
        have back : (List.drop (start + length) a.pieces).length = 8 - (start + length) := by
          rw [List.length_drop, eight]
        rw [if_neg short, List.append_assoc]
        by_cases first : start = 0
        · subst first
          have read := readPieces_front (List.drop (0 + length) a.pieces) (by omega)
          rw [List.take_zero, List.nil_append] at filled
          rw [filled, ofPieces?_pieces] at read
          exact read
        · have some : List.take start a.pieces ≠ [] := by
            apply List.length_pos_iff.mp
            omega
          have read := readPieces_middle (List.take start a.pieces)
            (List.drop (start + length) a.pieces) some (by omega)
          rw [front, filled, ofPieces?_pieces] at read
          exact read

theorem mem_colonText (words : List UInt16) : ∀ c ∈ colonText words, isHex c ∨ c = ':' := by
  intro c member
  rcases mem_intercalate ':' _ c member with colon | ⟨digits, inside, member⟩
  · exact .inr colon
  · rcases List.mem_map.mp inside with ⟨w, -, rfl⟩
    exact .inl (isHex_of_mem_hexText w c member)

theorem mem_chars (a : Ipv6) : ∀ c ∈ a.chars, isHex c ∨ c = ':' := by
  intro c member
  rw [chars] at member
  cases found : longestZeros 0 a.pieces with
  | mk start length =>
      rw [found] at member
      simp only at member
      split at member
      · exact mem_colonText a.pieces c member
      · simp only [List.mem_append] at member
        rcases member with (front | colons) | back
        · exact mem_colonText _ c front
        · exact .inr (by simpa using colons)
        · exact mem_colonText _ c back

theorem colon_not_mem_hexText (w : UInt16) : ':' ∉ hexText w := by
  intro member
  exact absurd (isHex_of_mem_hexText w ':' member) (by decide)

theorem count_colonText (words : List UInt16) : (colonText words).count ':' ≤ words.length := by
  induction words with
  | nil => exact Nat.le_refl 0
  | cons w words ih =>
      have none := List.count_eq_zero.mpr (colon_not_mem_hexText w)
      by_cases last : words = []
      · rw [last, colonText_singleton, none]
        exact Nat.zero_le _
      · rw [colonText_cons w words last, List.count_append, none, List.count_cons_self,
          List.length_cons]
        omega

theorem count_chars (a : Ipv6) : a.chars.count ':' ≤ 8 := by
  have eight := a.length_pieces
  rw [chars]
  cases found : longestZeros 0 a.pieces with
  | mk start length =>
      simp only
      by_cases short : length < 2
      · rw [if_pos short]
        have all := count_colonText a.pieces
        omega
      · obtain ⟨-, inside, -⟩ := longestZeros_spec a.pieces 0 start length found (by omega)
        have front := count_colonText (a.pieces.take start)
        have back := count_colonText (a.pieces.drop (start + length))
        have gap : "::".toList.count ':' = 2 := by decide
        rw [List.length_take] at front
        rw [List.length_drop] at back
        rw [if_neg short, List.count_append, List.count_append, gap]
        omega

end ProxyCheck.Ipv6
