import ProxyCheck.Proofs.Url.Percent

/-! The text of a path is read as that path: its segments are encoded, and none goes back. -/
namespace ProxyCheck.Url

theorem dots_percent (high low : Char) (rest : List Char)
    (other : ¬(high = '2' ∧ (low = 'e' ∨ low = 'E'))) : dots ('%' :: high :: low :: rest) = none := by
  rw [dots.eq_def]
  split <;> simp_all

theorem dots_hidden (c : Char) (rest : List Char) (hidden : Percent.keeps Percent.path c = false) :
    dots (Percent.encodeChar Percent.path c ++ rest) = none := by
  obtain ⟨b, more, bytes⟩ := List.exists_cons_of_ne_nil (String.utf8EncodeChar_ne_nil (c := c))
  have unlike : b.toNat ≠ 0x2E := by
    intro same
    have member : b ∈ String.utf8EncodeChar c := bytes ▸ List.mem_cons_self
    have equal := toNat_of_mem_utf8EncodeChar c b member (by omega)
    have dot : c = '.' := Char.toNat_inj.mp (equal.trans same)
    rw [dot] at hidden
    exact absurd hidden (by decide)
  have high : b.toNat / 16 < 16 := Nat.div_lt_of_lt_mul b.toNat_lt
  have low : b.toNat % 16 < 16 := Nat.mod_lt _ (by decide)
  rw [Percent.encodeChar, hidden, if_neg Bool.false_ne_true, bytes, List.flatMap_cons,
    Percent.encodeByte]
  apply dots_percent
  rintro ⟨first, second⟩
  have two := hexValue?_hexDigitUpper high
  have fourteen := hexValue?_hexDigitUpper low
  rw [first] at two
  have fourteen : 14 = b.toNat % 16 := by
    rcases second with second | second <;> rw [second] at fourteen <;>
      exact Option.some.inj fourteen
  have two : 2 = b.toNat / 16 := Option.some.inj two
  omega

theorem encode_kept_cons (c : Char) (rest : List Char) (kept : Percent.keeps Percent.path c) :
    Percent.encode Percent.path (c :: rest) = c :: Percent.encode Percent.path rest := by
  rw [Percent.encode_cons, Percent.encodeChar, if_pos kept]
  rfl

theorem encode_head (cs t : List Char) (d : Char)
    (same : Percent.encode Percent.path cs = d :: t) (plain : d ≠ '%') :
    ∃ rest, cs = d :: rest ∧ Percent.encode Percent.path rest = t := by
  cases cs with
  | nil => cases same
  | cons c rest =>
      by_cases kept : Percent.keeps Percent.path c
      · rw [encode_kept_cons c rest kept] at same
        cases same
        exact ⟨rest, rfl, rfl⟩
      · obtain ⟨more, hidden⟩ := Percent.encodeChar_of_not_keeps Percent.path c kept
        rw [Percent.encode_cons, hidden] at same
        exact absurd (List.cons.inj same).1.symm plain

theorem dots_none (cs : List Char) (nonempty : cs ≠ []) (dot : ∀ rest, cs ≠ '.' :: rest)
    (lower : ∀ rest, cs ≠ '%' :: '2' :: 'e' :: rest)
    (upper : ∀ rest, cs ≠ '%' :: '2' :: 'E' :: rest) : dots cs = none := by
  rw [dots.eq_def]
  split
  · exact absurd rfl nonempty
  · exact absurd rfl (dot _)
  · exact absurd rfl (lower _)
  · exact absurd rfl (upper _)
  · rfl

theorem dots_encode (segment : List Char) :
    dots (Percent.encode Percent.path segment) = dots segment := by
  fun_induction dots segment with
  | case1 => rfl
  | case2 rest ih => rw [encode_kept_cons _ _ (by decide), dots, ih]
  | case3 rest ih =>
      rw [encode_kept_cons _ _ (by decide), encode_kept_cons _ _ (by decide),
        encode_kept_cons _ _ (by decide), dots, ih]
  | case4 rest ih =>
      rw [encode_kept_cons _ _ (by decide), encode_kept_cons _ _ (by decide),
        encode_kept_cons _ _ (by decide), dots, ih]
  | case5 segment empty dot lower upper =>
      cases segment with
      | nil => exact absurd rfl empty
      | cons c rest =>
          by_cases kept : Percent.keeps Percent.path c
          · rw [encode_kept_cons c rest kept]
            have spelled (x t) (same : c :: Percent.encode Percent.path rest = '%' :: '2' :: x :: t)
                (plain : x ≠ '%') : ∃ later, c :: rest = '%' :: '2' :: x :: later := by
              rcases List.cons.inj same with ⟨sign, encoded⟩
              obtain ⟨middle, two, encoded⟩ := encode_head rest _ '2' encoded (by decide)
              obtain ⟨later, letter, -⟩ := encode_head middle t x encoded plain
              exact ⟨later, by rw [sign, two, letter]⟩
            apply dots_none
            · exact List.cons_ne_nil _ _
            · intro t same
              exact dot rest (by rw [(List.cons.inj same).1])
            · intro t same
              obtain ⟨later, whole⟩ := spelled 'e' t same (by decide)
              exact lower later whole
            · intro t same
              obtain ⟨later, whole⟩ := spelled 'E' t same (by decide)
              exact upper later whole
          · exact dots_hidden c _ (Bool.eq_false_iff.mpr kept)

structure Settled (segment : String) : Prop where
  kept : ∀ c ∈ segment.toList, Percent.keeps Percent.path c
  inside : ∀ c ∈ segment.toList, isSlash true c = false
  stays : dots segment.toList ≠ some 1
  onward : dots segment.toList ≠ some 2

theorem settled_empty : Settled "" := by
  refine ⟨?_, ?_, by decide, by decide⟩
  · intro c member
    cases member
  · intro c member
    cases member

theorem settled_encodeSegment (segment : List Char) (inside : ∀ c ∈ segment, isSlash true c = false)
    (stays : dots segment ≠ some 1) (onward : dots segment ≠ some 2) :
    Settled (encodeSegment segment) := by
  have text : (encodeSegment segment).toList = Percent.encode Percent.path segment :=
    String.toList_ofList
  refine ⟨?_, ?_, ?_, ?_⟩
  · rw [text]
    exact Percent.keeps_of_mem_encode _ (fun c sign => (Percent.signs_kept c sign).2.2.1) segment
  · rw [text]
    intro c member
    rcases Percent.mem_encode _ segment c member with ⟨source, -⟩ | sign
    · exact inside c source
    · exact of_mem (isSlash true · = false) Percent.signs (by decide) c sign
  · rwa [text, dots_encode]
  · rwa [text, dots_encode]

theorem encodeSegment_settled (segment : String) (settled : Settled segment) :
    encodeSegment segment.toList = segment := by
  rw [encodeSegment, Percent.encode_eq_self _ _ settled.kept, String.ofList_toList]

theorem mem_leave (done : List String) (segment : String) (member : segment ∈ leave done) :
    segment ∈ done := by
  cases done with
  | nil => exact member
  | cons last rest =>
      rw [leave] at member
      split at member
      · exact member
      · exact List.mem_cons_of_mem _ member

/-- What a walk leaves has been there, or is empty, or is an encoded segment that is no dots. -/
theorem mem_walk (done : List String) (segments : List (List Char)) (segment : String)
    (member : segment ∈ walk done segments) :
    segment ∈ done ∨ segment = "" ∨
      ∃ source ∈ segments, segment = encodeSegment source ∧ dots source ≠ some 1 ∧
        dots source ≠ some 2 := by
  induction segments generalizing done with
  | nil => exact .inl (List.mem_reverse.mp member)
  | cons head rest ih =>
      have later (next : List String) (walked : segment ∈ walk next rest) :
          segment ∈ next ∨ segment = "" ∨
            ∃ source ∈ head :: rest, segment = encodeSegment source ∧ dots source ≠ some 1 ∧
              dots source ≠ some 2 := by
        rcases ih next walked with before | empty | ⟨source, inside, encoded⟩
        · exact .inl before
        · exact .inr (.inl empty)
        · exact .inr (.inr ⟨source, List.mem_cons_of_mem _ inside, encoded⟩)
      rw [walk] at member
      split at member
      · rcases later _ member with before | other
        · split at before
          · rcases List.mem_cons.mp before with empty | before
            · exact .inr (.inl empty)
            · exact .inl before
          · exact .inl before
        · exact .inr other
      · rcases later _ member with before | other
        · split at before
          · rcases List.mem_cons.mp before with empty | before
            · exact .inr (.inl empty)
            · exact .inl (mem_leave done segment before)
          · exact .inl (mem_leave done segment before)
        · exact .inr other
      · rename_i stays onward
        rcases later _ member with before | other
        · rcases List.mem_cons.mp before with encoded | before
          · exact .inr (.inr ⟨head, List.mem_cons_self, encoded, stays, onward⟩)
          · exact .inl before
        · exact .inr other

theorem settled_walk (segments : List (List Char))
    (inside : ∀ segment ∈ segments, ∀ c ∈ segment, isSlash true c = false) :
    ∀ segment ∈ walk [] segments, Settled segment := by
  intro segment member
  rcases mem_walk [] segments segment member with before | rfl | ⟨source, found, rfl, stays, onward⟩
  · cases before
  · exact settled_empty
  · exact settled_encodeSegment source (inside source found) stays onward

theorem walk_settled (done segments : List String)
    (settled : ∀ segment ∈ segments, Settled segment) :
    walk done (segments.map String.toList) = done.reverse ++ segments := by
  induction segments generalizing done with
  | nil => simp [walk]
  | cons head rest ih =>
      have first := settled head List.mem_cons_self
      rw [List.map_cons, walk]
      split
      · rename_i one
        exact absurd one first.stays
      · rename_i two
        exact absurd two first.onward
      · rw [encodeSegment_settled head first,
          ih _ fun segment member => settled segment (List.mem_cons_of_mem _ member)]
        simp

theorem walk_ne_nil (done : List String) (segments : List (List Char))
    (some : done ≠ [] ∨ segments ≠ []) : walk done segments ≠ [] := by
  induction segments generalizing done with
  | nil =>
      rw [walk]
      rcases some with some | some
      · simpa using some
      · exact absurd rfl some
  | cons head rest ih =>
      rw [walk]
      split
      · apply ih
        cases rest with
        | nil => exact .inl (List.cons_ne_nil _ _)
        | cons segment rest => exact .inr (List.cons_ne_nil _ _)
      · apply ih
        cases rest with
        | nil => exact .inl (List.cons_ne_nil _ _)
        | cons segment rest => exact .inr (List.cons_ne_nil _ _)
      · exact ih _ (.inl (List.cons_ne_nil _ _))

theorem splitSegments_ne_nil (special : Bool) (cs : List Char) : splitSegments special cs ≠ [] := by
  cases cs with
  | nil => exact List.cons_ne_nil _ _
  | cons c rest =>
      rw [splitSegments]
      split
      · exact List.cons_ne_nil _ _
      · split
        · exact List.cons_ne_nil _ _
        · exact List.cons_ne_nil _ _

theorem inside_splitSegments (special : Bool) (cs : List Char) :
    ∀ segment ∈ splitSegments special cs, ∀ c ∈ segment, isSlash special c = false := by
  induction cs with
  | nil =>
      intro segment member c inside
      rw [splitSegments, List.mem_singleton] at member
      rw [member] at inside
      cases inside
  | cons d rest ih =>
      intro segment member c inside
      rw [splitSegments] at member
      split at member
      · rcases List.mem_cons.mp member with rfl | member
        · cases inside
        · exact ih segment member c inside
      · rename_i plain
        rw [Bool.not_eq_true] at plain
        split at member
        · rw [List.mem_singleton] at member
          rw [member, List.mem_singleton] at inside
          rw [inside]
          exact plain
        · rename_i first others same
          rcases List.mem_cons.mp member with rfl | member
          · rcases List.mem_cons.mp inside with rfl | inside
            · exact plain
            · exact ih first (same ▸ List.mem_cons_self) c inside
          · exact ih segment (same ▸ List.mem_cons_of_mem _ member) c inside

theorem splitSegments_plain (special : Bool) (segment : List Char)
    (inside : ∀ c ∈ segment, isSlash special c = false) :
    splitSegments special segment = [segment] := by
  induction segment with
  | nil => rfl
  | cons c rest ih =>
      rw [splitSegments, inside c List.mem_cons_self, if_neg Bool.false_ne_true,
        ih fun d member => inside d (List.mem_cons_of_mem _ member)]

theorem splitSegments_slash (special : Bool) (segment rest : List Char)
    (inside : ∀ c ∈ segment, isSlash special c = false) :
    splitSegments special (segment ++ '/' :: rest) = segment :: splitSegments special rest := by
  induction segment with
  | nil =>
      have slash : isSlash special '/' := rfl
      rw [List.nil_append, splitSegments, if_pos slash]
  | cons c segment ih =>
      rw [List.cons_append, splitSegments, inside c List.mem_cons_self, if_neg Bool.false_ne_true,
        ih fun d member => inside d (List.mem_cons_of_mem _ member)]

theorem toList_segments (segments : List String) :
    (Path.segments segments).text.toList =
      (segments.map String.toList).flatMap fun segment => '/' :: segment := by
  rw [Path.text, String.toList_join, List.flatMap_map, List.flatMap_map]
  simp

theorem splitSegments_text (head : String) (rest : List String)
    (settled : ∀ segment ∈ head :: rest, Settled segment) :
    splitSegments true (head.toList ++ (rest.map String.toList).flatMap fun segment => '/' :: segment) =
      (head :: rest).map String.toList := by
  induction rest generalizing head with
  | nil =>
      have inside := (settled head List.mem_cons_self).inside
      rw [List.map_nil, List.flatMap_nil, List.append_nil, splitSegments_plain true _ inside]
      rfl
  | cons next rest ih =>
      have inside := (settled head List.mem_cons_self).inside
      rw [List.map_cons, List.flatMap_cons, List.cons_append, splitSegments_slash true _ _ inside,
        ih next fun segment member => settled segment (List.mem_cons_of_mem _ member)]
      rfl

theorem readPath_text (segments : List String) (nonempty : segments ≠ [])
    (settled : ∀ segment ∈ segments, Settled segment) :
    readPath true (Path.segments segments).text.toList = .segments segments := by
  rcases List.exists_cons_of_ne_nil nonempty with ⟨head, rest, rfl⟩
  have slash : isSlash true '/' := rfl
  rw [toList_segments, List.map_cons, List.flatMap_cons, List.cons_append, readPath, if_pos slash,
    readSegments, splitSegments_text head rest settled, walk_settled [] _ settled]
  rfl

theorem mem_segments (segments : List String)
    (kept : ∀ segment ∈ segments, ∀ c ∈ segment.toList, Percent.keeps Percent.path c) :
    ∀ c ∈ (Path.segments segments).text.toList, isVisible c ∧ endsPath c = false := by
  intro c member
  rw [toList_segments] at member
  rcases List.mem_flatMap.mp member with ⟨chars, source, member⟩
  rcases List.mem_map.mp source with ⟨segment, inside, rfl⟩
  rcases List.mem_cons.mp member with rfl | member
  · decide
  · exact Percent.of_keeps_path c (kept segment inside c member)

theorem kept_readPath (special : Bool) (cs : List Char) :
    ∃ segments, readPath special cs = .segments segments ∧
      ∀ segment ∈ segments, ∀ c ∈ segment.toList, Percent.keeps Percent.path c := by
  have all (cs : List Char) : ∃ segments, readSegments special cs = .segments segments ∧
      ∀ segment ∈ segments, ∀ c ∈ segment.toList, Percent.keeps Percent.path c := by
    refine ⟨_, rfl, fun segment member => ?_⟩
    rcases mem_walk [] _ segment member with before | rfl | ⟨source, -, rfl, -⟩
    · cases before
    · exact settled_empty.kept
    · rw [encodeSegment, String.toList_ofList]
      exact Percent.keeps_of_mem_encode _ (fun c sign => (Percent.signs_kept c sign).2.2.1) source
  cases cs with
  | cons c rest => exact all _
  | nil =>
      cases special with
      | true => exact all []
      | false => exact ⟨[], rfl, nofun⟩

theorem settled_readPath (cs : List Char) : ∃ segments, readPath true cs = .segments segments ∧
    segments ≠ [] ∧ ∀ segment ∈ segments, Settled segment := by
  have all (cs : List Char) : ∃ segments, readSegments true cs = .segments segments ∧
      segments ≠ [] ∧ ∀ segment ∈ segments, Settled segment := by
    refine ⟨_, rfl, walk_ne_nil [] _ (.inr (splitSegments_ne_nil true cs)), ?_⟩
    exact settled_walk _ (inside_splitSegments true cs)
  cases cs with
  | nil => exact all []
  | cons c rest => exact all _

end ProxyCheck.Url
