import ProxyCheck.Proofs.Json.Skip

/-! A record is read back from its own text: each value goes into the slot of its key. -/
namespace ProxyCheck.JsonReader

open Json (separated memberChars)

theorem shaped_text (size depth : Nat) (text : String) (rest : List Char) :
    shaped size depth .text ((Json.string text).chars ++ rest) = .ok (.string text, rest) := by
  rw [Json.chars, quote_append, shaped, readText, skipBlanks_cons '"' _ rfl]
  simp only [string_escaped]
  rfl

theorem shaped_optional (size depth : Nat) (shape : Shape) (c : Char) (cs : List Char)
    (visible : isBlank c = false) (other : c ≠ 'n') :
    shaped size depth (.optional shape) (c :: cs) = shaped size depth shape (c :: cs) := by
  rw [shaped]
  beta_reduce
  rw [skipBlanks_cons c _ visible]
  split
  · rename_i same
    exact absurd (List.cons.inj same).1 other
  · rfl

theorem shaped_optional_text (size depth : Nat) (text : Option String) (rest : List Char) :
    shaped size depth (.optional .text) ((Json.optional .string text).chars ++ rest) =
      .ok (Json.optional .string text, rest) := by
  cases text with
  | none => rfl
  | some text =>
      have read := shaped_text size depth text rest
      rw [Json.optional, Option.elim_some]
      rw [Json.chars, quote_append] at read ⊢
      rw [shaped_optional size depth .text '"' _ rfl (by decide)]
      exact read

theorem shaped_natural (size depth bound n : Nat) (rest : List Char) (within : n ≤ bound)
    (fits : n < UInt64.size) (ends : EndsValue rest) :
    shaped size depth (.natural bound) ((Json.natural n).chars ++ rest) =
      .ok (Json.natural n, rest) := by
  have read := signedNumber_natural n rest fits ends
  obtain ⟨c, digit, more, front⟩ := exists_digit n
  rw [chars_natural]
  rw [front, List.cons_append] at read ⊢
  rw [shaped, readNatural, skipBlanks_cons c _ (blank_of_isDigit c digit)]
  simp only [digit, or_true, if_true, read, bind, Except.bind]
  rw [if_pos ⟨Int.natCast_nonneg n, Int.ofNat_le.mpr within⟩]
  rfl

theorem shaped_optional_natural (size depth bound : Nat) (n : Option Nat) (rest : List Char)
    (within : ∀ m ∈ n, m ≤ bound) (fits : bound < UInt64.size) (ends : EndsValue rest) :
    shaped size depth (.optional (.natural bound)) ((Json.optional Json.natural n).chars ++ rest) =
      .ok (Json.optional Json.natural n, rest) := by
  cases n with
  | none => rfl
  | some n =>
      have small := within n rfl
      have read := shaped_natural size depth bound n rest small (Nat.lt_of_le_of_lt small fits) ends
      obtain ⟨c, digit, more, front⟩ := exists_digit n
      rw [Json.optional, Option.elim_some]
      rw [chars_natural] at read ⊢
      rw [front, List.cons_append] at read ⊢
      rw [shaped_optional size depth _ c _ (blank_of_isDigit c digit) (by rintro rfl; cases digit)]
      exact read

theorem shaped_map (size depth : Nat) (ms : NamedPairs Json) (rest : List Char)
    (few : ms.length ≤ size) (scalars : ∀ p ∈ ms, IsScalar p.2) :
    shaped size (depth + 1) .map ((Json.object ms).chars ++ rest) = .ok (.object ms.sort, rest) := by
  have reads : ∀ p ∈ ms, ∀ rest, EndsValue rest →
      value size depth (p.2.chars ++ rest) = .ok (p.2, rest) := by
    intro p member rest ends
    cases depth with
    | zero => exact valueOver_scalar size none p.2 (scalars p member) rest ends
    | succ depth =>
        exact valueOver_scalar size (some (value size depth)) p.2 (scalars p member) rest ends
  have text : (Json.object ms).chars ++ rest =
      '\x7B' :: (separated (memberChars ms) ++ '\x7D' :: rest) := by
    simp [Json.chars]
  rw [text, shaped, readMap, skipBlanks_cons _ _ rfl]
  simp only
  rw [sortedMembers_members size (value size depth) ms rest few reads]
  rfl

def ReadsAs (size depth : Nat) (shape : Shape) (j x : Json) : Prop :=
  ∀ rest, EndsValue rest → shaped size depth shape (j.chars ++ rest) = .ok (x, rest)

theorem fill_known (size depth : Nat) (slots : List Slot) (found : String → Option Json)
    (slot : Slot) (cs rest : List Char) (x : Json) (known : slot ∈ slots)
    (distinct : (slots.map Slot.key).Nodup) (free : found slot.key = none)
    (read : shaped size depth slot.shape cs = .ok (x, rest)) :
    fill size depth slots (slots.map fun s => found s.key) slot.key cs =
      .ok (slots.map fun s => if s.key = slot.key then some x else found s.key, rest) := by
  induction slots with
  | nil => cases known
  | cons s slots ih =>
      rw [List.map_cons, List.nodup_cons] at distinct
      rw [List.map_cons, List.map_cons, fill]
      beta_reduce
      rcases List.mem_cons.mp known with rfl | later
      · have others : slots.map (fun s => if s.key = slot.key then some x else found s.key) =
            slots.map fun s => found s.key := by
          apply List.map_congr_left
          intro t member
          have apart : t.key ≠ slot.key := fun same => distinct.1 (same ▸ List.mem_map_of_mem member)
          exact if_neg apart
        rw [if_pos rfl, free, if_pos rfl, others, read]
        rfl
      · have apart : s.key ≠ slot.key := fun same => distinct.1 (same ▸ List.mem_map_of_mem later)
        rw [if_neg apart, if_neg apart, ih later distinct.2]
        rfl

theorem fill_unknown (size depth : Nat) (slots : List Slot) (found : Found) (key : String)
    (cs rest : List Char) (unknown : ∀ s ∈ slots, s.key ≠ key)
    (passed : skip size cs = .ok ((), rest)) :
    fill size depth slots found key cs = .ok (found, rest) := by
  induction slots generalizing found with
  | nil =>
      simp only [fill, passed, bind, Except.bind]
      rfl
  | cons s slots ih =>
      cases found with
      | nil =>
          simp only [fill, passed, bind, Except.bind]
          rfl
      | cons x found =>
          rw [fill]
          beta_reduce
          rw [if_neg (unknown s List.mem_cons_self),
            ih found fun t member => unknown t (List.mem_cons_of_mem s member)]
          rfl

/-- Members that a record is read from: each of its keys at most once, with a value for its slot,
and what is made of the value. -/
structure Fits (size depth : Nat) (slots : List Slot) (made : Json → Json)
    (ms : List (String × Json)) : Prop where
  once : ms.Pairwise fun p q => p.1 = q.1 → ∀ s ∈ slots, s.key ≠ p.1
  known : ∀ p ∈ ms, ∀ s ∈ slots, s.key = p.1 → ReadsAs size depth s.shape p.2 (made p.2)
  other : ∀ p ∈ ms, (∀ s ∈ slots, s.key ≠ p.1) → p.2.chars.length ≤ size

theorem makes_fill (size depth : Nat) (slots : List Slot) (made : Json → Json)
    (done ms : NamedPairs Json) (distinct : (slots.map Slot.key).Nodup)
    (fits : Fits size depth slots made (done ++ ms)) :
    Makes id (fill size depth slots) (slots.map fun s => (done.find? s.key).map made) ms
      (slots.map fun s => (NamedPairs.find? s.key (done ++ ms)).map made) := by
  induction ms generalizing done with
  | nil =>
      rw [List.append_nil]
      exact .nil _
  | cons p ms ih =>
      have whole : done ++ p :: ms = (done ++ [p]) ++ ms := by simp
      have member : p ∈ done ++ p :: ms := List.mem_append_right done List.mem_cons_self
      have later := ih (done ++ [p]) (whole ▸ fits)
      rw [← whole] at later
      refine .cons _ _ _ p.1 p.2 ms (fun rest ends => ?_) later
      by_cases known : ∃ s ∈ slots, s.key = p.1
      · obtain ⟨slot, inside, key⟩ := known
        have free : done.find? slot.key = none := by
          rw [NamedPairs.find?_eq_none_iff]
          intro q early same
          have twice := (List.pairwise_append.mp fits.once).2.2 q early p List.mem_cons_self
          exact twice (same.trans key) slot inside same.symm
        have next : (slots.map fun s => (NamedPairs.find? s.key (done ++ [p])).map made) =
            slots.map fun s =>
              if s.key = slot.key then some (made p.2) else (done.find? s.key).map made := by
          apply List.map_congr_left
          intro s _
          rw [NamedPairs.find?_append]
          by_cases same : s.key = slot.key
          · rw [if_pos same, same, free, key]
            simp [NamedPairs.find?]
          · have apart : p.1 ≠ s.key := fun other => same (other.symm.trans key.symm)
            simp [NamedPairs.find?, same, apart]
        rw [next, ← key]
        have read := fits.known p member slot inside key rest ends
        exact fill_known size depth slots (fun key => (done.find? key).map made) slot _ rest
          (made p.2) inside distinct (by rw [free, Option.map_none]) read
      · push Not at known
        have next : (slots.map fun s => (NamedPairs.find? s.key (done ++ [p])).map made) =
            slots.map fun s => (done.find? s.key).map made := by
          apply List.map_congr_left
          intro s inside
          simp [NamedPairs.find?_append, NamedPairs.find?, (known s inside).symm]
        rw [next]
        exact fill_unknown size depth slots _ p.1 _ rest known
          (skip_chars size p.2 rest (fits.other p member known) ends)

theorem mapM_settle (slots : List Slot) (found : String → Option Json)
    (present : ∀ s ∈ slots, found s.key = none → ∃ shape, s.shape = .optional shape) :
    (slots.zip (slots.map fun s => found s.key)).mapM settle =
      .ok (slots.map fun s => (found s.key).getD .null) := by
  induction slots with
  | nil => rfl
  | cons s slots ih =>
      have here : settle (s, found s.key) = .ok ((found s.key).getD .null) := by
        cases value : found s.key with
        | some x => rfl
        | none =>
            obtain ⟨key, shape, mayEnd⟩ := s
            obtain ⟨inner, rfl⟩ := present _ List.mem_cons_self value
            rfl
      rw [List.map_cons, List.map_cons, List.zip_cons_cons, List.mapM_cons, here,
        ih fun t member => present t (List.mem_cons_of_mem s member)]
      rfl

/-- A record is read from members in any order, with others among them. -/
theorem objectRecord_members (size depth : Nat) (slots : List Slot) (made : Json → Json)
    (ms : NamedPairs Json) (rest : List Char) (distinct : (slots.map Slot.key).Nodup)
    (fits : Fits size depth slots made ms) (few : ms.length ≤ size)
    (present : ∀ s ∈ slots, ms.find? s.key = none → ∃ shape, s.shape = .optional shape) :
    objectRecord size depth slots (separated (memberChars ms) ++ '\x7D' :: rest) =
      .ok (slots.map fun s => ((ms.find? s.key).map made).getD .null, rest) := by
  have makes := makes_fill size depth slots made [] ms distinct fits
  have settled := mapM_settle slots (fun key => (ms.find? key).map made) fun s member none =>
    present s member (Option.map_eq_none_iff.mp none)
  rw [objectRecord]
  change (members size string (fill size depth slots)
    (slots.map fun s => (NamedPairs.find? s.key []).map made) _ >>= _) = _
  rw [members_separated string id (fill size depth slots) string_escaped size _ _ ms rest makes few]
  simp only [bind, Except.bind, List.nil_append, settled, close_cons '\x7D' rest rfl]
  rfl

theorem arrayValues_end (size depth : Nat) (slots : List Slot) (first : Bool) (rest : List Char)
    (spare : ∀ s ∈ slots, s.mayEnd) :
    arrayValues size depth slots first (']' :: rest) =
      .ok (slots.map fun _ => .null, ']' :: rest) := by
  induction slots with
  | nil => rfl
  | cons s slots ih =>
      rw [arrayValues, hasItem_end first rest]
      simp only [bind, Except.bind, Bool.false_eq_true, if_false]
      have later := ih fun t member => spare t (List.mem_cons_of_mem s member)
      rw [if_pos (spare s List.mem_cons_self), later]
      rfl

theorem arrayValues_trailing (size depth : Nat) (ps : List (Slot × Json)) (slots : List Slot)
    (rest : List Char) (reads : ∀ p ∈ ps, ReadsAs size depth p.1.shape p.2 p.2)
    (spare : ∀ s ∈ slots, s.mayEnd) :
    arrayValues size depth (ps.map Prod.fst ++ slots) false
        ((ps.map fun p => p.2.chars).flatMap (',' :: ·) ++ ']' :: rest) =
      .ok (ps.map Prod.snd ++ slots.map fun _ => .null, ']' :: rest) := by
  induction ps with
  | nil => exact arrayValues_end size depth slots false rest spare
  | cons p ps ih =>
      have later := ih fun q member => reads q (List.mem_cons_of_mem p member)
      have ends := endsValue_items (ps.map fun p => p.2.chars) rest
      simp only [List.map_cons, List.flatMap_cons, List.cons_append, List.append_assoc]
      rw [arrayValues, hasItem_next p.2]
      simp only [bind, Except.bind, if_true]
      rw [reads p List.mem_cons_self _ ends]
      simp only
      rw [later]
      rfl

/-- A record is read from the values of its slots in order. The last may be missing where an array
may do without them. -/
theorem arrayRecord_separated (size depth : Nat) (ps : List (Slot × Json)) (slots : List Slot)
    (rest : List Char) (reads : ∀ p ∈ ps, ReadsAs size depth p.1.shape p.2 p.2)
    (spare : ∀ s ∈ slots, s.mayEnd) :
    arrayRecord size depth (ps.map Prod.fst ++ slots)
        (separated (ps.map fun p => p.2.chars) ++ ']' :: rest) =
      .ok (ps.map Prod.snd ++ slots.map fun _ => .null, rest) := by
  have values : arrayValues size depth (ps.map Prod.fst ++ slots) true
      (separated (ps.map fun p => p.2.chars) ++ ']' :: rest) =
        .ok (ps.map Prod.snd ++ slots.map fun _ => .null, ']' :: rest) := by
    cases ps with
    | nil => exact arrayValues_end size depth slots true rest spare
    | cons p ps =>
        have later := arrayValues_trailing size depth ps slots rest
          (fun q member => reads q (List.mem_cons_of_mem p member)) spare
        have ends := endsValue_items (ps.map fun p => p.2.chars) rest
        simp only [List.map_cons, separated_cons, List.cons_append, List.append_assoc]
        rw [arrayValues, hasItem_first p.2]
        simp only [bind, Except.bind, if_true]
        rw [reads p List.mem_cons_self _ ends]
        simp only
        rw [later]
        rfl
  rw [arrayRecord, values]
  simp only [bind, Except.bind, close_cons ']' rest rfl]
  rfl

theorem record_object (slots : List Slot) (made : Json → Json) (ms : NamedPairs Json)
    (distinct : (slots.map Slot.key).Nodup)
    (fits : Fits (Json.object ms).chars.length (nestingLimit - 1) slots made ms)
    (present : ∀ s ∈ slots, ms.find? s.key = none → ∃ shape, s.shape = .optional shape) :
    record slots (Json.object ms).chars =
      .ok (slots.map fun s => ((ms.find? s.key).map made).getD .null, []) := by
  have members := objectRecord_members _ _ slots made ms [] distinct fits
    (length_chars_object ms).1 present
  have text : (Json.object ms).chars = '\x7B' :: (separated (memberChars ms) ++ ['\x7D']) := by
    rw [Json.chars, List.cons_append]
  rw [record]
  generalize (Json.object ms).chars.length = size at members ⊢
  rw [text, skipBlanks_cons _ _ rfl]
  exact members

theorem record_array (front back : List Slot) (vs : List Json) (count : front.length = vs.length)
    (reads : ∀ p ∈ front.zip vs,
      ReadsAs (Json.array vs).chars.length (nestingLimit - 1) p.1.shape p.2 p.2)
    (spare : ∀ s ∈ back, s.mayEnd) :
    record (front ++ back) (Json.array vs).chars = .ok (vs ++ back.map fun _ => .null, []) := by
  have names : (front.zip vs).map Prod.fst = front := List.map_fst_zip (Nat.le_of_eq count)
  have items : (front.zip vs).map Prod.snd = vs := List.map_snd_zip (Nat.le_of_eq count.symm)
  have chars : ((front.zip vs).map fun p => p.2.chars) = vs.map Json.chars := by
    rw [← congrArg (List.map Json.chars) items, List.map_map]
    rfl
  have values := arrayRecord_separated _ _ (front.zip vs) back [] reads spare
  have text : (Json.array vs).chars = '[' :: (separated (vs.map Json.chars) ++ [']']) := by
    rw [Json.chars, itemChars_eq_map, List.cons_append]
  rw [names, items, chars] at values
  rw [record]
  generalize (Json.array vs).chars.length = size at values ⊢
  rw [text, skipBlanks_cons _ _ rfl]
  exact values

end ProxyCheck.JsonReader
