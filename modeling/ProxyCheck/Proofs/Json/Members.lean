import ProxyCheck.Proofs.Json.Scalar
import ProxyCheck.Proofs.NameMap

/-! The members of an object are read back one by one, whatever is made of them. -/
namespace ProxyCheck

namespace JsonReader

open Json (separated memberChars escapeChar)

theorem close_cons (bracket : Char) (rest : List Char) (visible : isBlank bracket = false) :
    close bracket (bracket :: rest) = .ok ((), rest) := by
  rw [close, skipBlanks_cons bracket rest visible]
  exact if_pos rfl

theorem separated_cons (item : List Char) (rest : List (List Char)) :
    separated (item :: rest) = item ++ rest.flatMap (',' :: ·) := by
  induction rest generalizing item with
  | nil => simp [separated]
  | cons next rest ih =>
      rw [separated, ih, List.flatMap_cons, List.cons_append]
      exact nofun

def trailing (ms : List (String × Json)) : List Char :=
  (memberChars ms).flatMap (',' :: ·)

theorem endsValue_trailing (ms : List (String × Json)) (rest : List Char) :
    EndsValue (trailing ms ++ '\x7D' :: rest) := by
  cases ms with
  | nil => exact .inr (.inl rfl)
  | cons head ms => exact .inl rfl

def ReadsKeys {κ : Type} (read : JsonReader κ) (name : String → κ) : Prop :=
  ∀ (key : String) (rest : List Char),
    read (key.toList.flatMap escapeChar ++ '"' :: rest) = .ok (name key, rest)

inductive Makes {κ σ : Type} (name : String → κ) (member : σ → κ → JsonReader σ) :
    σ → List (String × Json) → σ → Prop where
  | nil (s : σ) : Makes name member s [] s
  | cons (s next last : σ) (key : String) (value : Json) (ms : List (String × Json))
      (read : ∀ rest, EndsValue rest → member s (name key) (value.chars ++ rest) = .ok (next, rest))
      (later : Makes name member next ms last) : Makes name member s ((key, value) :: ms) last

variable {κ σ : Type} (read : JsonReader κ) (name : String → κ) (member : σ → κ → JsonReader σ)

theorem membersFrom_step (reads : ReadsKeys read name) (fuel : Nat)
    (first : Bool) (s next : σ) (key : String) (value : Json) (cs tail : List Char)
    (more : hasMember first cs =
      .ok (true, key.toList.flatMap escapeChar ++ '"' :: ':' :: (value.chars ++ tail)))
    (made : member s (name key) (value.chars ++ tail) = .ok (next, tail)) :
    membersFrom read member (fuel + 1) first s cs =
      membersFrom read member fuel false next tail := by
  rw [membersFrom, more]
  simp only [bind, Except.bind, if_true, reads key, close_cons ':' _ rfl, made]

theorem membersFrom_trailing (reads : ReadsKeys read name) (fuel : Nat) (s last : σ)
    (ms : List (String × Json)) (rest : List Char) (makes : Makes name member s ms last)
    (few : ms.length < fuel) :
    membersFrom read member fuel false s (trailing ms ++ '\x7D' :: rest) =
      .ok (last, '\x7D' :: rest) := by
  induction makes generalizing fuel with
  | nil s =>
      obtain ⟨fuel, rfl⟩ := Nat.exists_eq_succ_of_ne_zero (Nat.ne_of_gt few)
      rfl
  | cons s next last key value ms made later ih =>
      obtain ⟨fuel, rfl⟩ := Nat.exists_eq_succ_of_ne_zero (Nat.ne_of_gt (Nat.zero_lt_of_lt few))
      have text : trailing ((key, value) :: ms) ++ '\x7D' :: rest =
          ',' :: '"' :: (key.toList.flatMap escapeChar ++ '"' :: ':' ::
            (value.chars ++ (trailing ms ++ '\x7D' :: rest))) := by
        simp [trailing, memberChars, Json.quote]
      have more : hasMember false (trailing ((key, value) :: ms) ++ '\x7D' :: rest) =
          .ok (true, key.toList.flatMap escapeChar ++ '"' :: ':' ::
            (value.chars ++ (trailing ms ++ '\x7D' :: rest))) := by
        rw [text, hasMember, skipBlanks_cons ',' _ rfl]
        rfl
      rw [membersFrom_step read name member reads fuel false s next key value _ _ more
        (made _ (endsValue_trailing ms rest))]
      exact ih fuel (Nat.lt_of_succ_lt_succ few)

theorem members_separated (reads : ReadsKeys read name) (size : Nat) (s last : σ)
    (ms : List (String × Json)) (rest : List Char) (makes : Makes name member s ms last)
    (few : ms.length ≤ size) :
    members size read member s (separated (memberChars ms) ++ '\x7D' :: rest) =
      .ok (last, '\x7D' :: rest) := by
  rw [members]
  cases makes with
  | nil => rfl
  | cons s next last key value ms made later =>
      have text : separated (memberChars ((key, value) :: ms)) ++ '\x7D' :: rest =
          '"' :: (key.toList.flatMap escapeChar ++ '"' :: ':' ::
            (value.chars ++ (trailing ms ++ '\x7D' :: rest))) := by
        simp [trailing, memberChars, separated_cons, Json.quote]
      have more : hasMember true (separated (memberChars ((key, value) :: ms)) ++ '\x7D' :: rest) =
          .ok (true, key.toList.flatMap escapeChar ++ '"' :: ':' ::
            (value.chars ++ (trailing ms ++ '\x7D' :: rest))) := by
        rw [text, hasMember, skipBlanks_cons '"' _ rfl]
        rfl
      rw [membersFrom_step read name member reads size true s next key value _ _ more
        (made _ (endsValue_trailing ms rest))]
      exact membersFrom_trailing read name member reads size next last ms rest later few

theorem makes_place (value : JsonReader Json) (ms done : NamedPairs Json)
    (reads : ∀ p ∈ ms, ∀ rest, EndsValue rest → value (p.2.chars ++ rest) = .ok (p.2, rest)) :
    Makes id (placeMember value) done ms
      (ms.foldl (fun sorted (name, value) => NamedPairs.place name value sorted) done) := by
  induction ms generalizing done with
  | nil => exact .nil done
  | cons head ms ih =>
      refine .cons done (NamedPairs.place head.1 head.2 done) _ head.1 head.2 ms
        (fun rest ends => ?_) (ih _ fun p member => reads p (List.mem_cons_of_mem head member))
      rw [placeMember, reads head List.mem_cons_self rest ends]
      rfl

theorem sortedMembers_members (size : Nat) (value : JsonReader Json) (ms : NamedPairs Json)
    (rest : List Char) (few : ms.length ≤ size)
    (reads : ∀ p ∈ ms, ∀ rest, EndsValue rest → value (p.2.chars ++ rest) = .ok (p.2, rest)) :
    sortedMembers size value (separated (memberChars ms) ++ '\x7D' :: rest) = .ok (ms.sort, rest) := by
  have makes := makes_place value ms [] reads
  rw [sortedMembers, members_separated string id (placeMember value) string_escaped size [] _ ms rest
    makes few]
  simp only [bind, Except.bind, close_cons '\x7D' rest rfl]
  rfl

theorem length_le_separated (items : List (List Char)) (nonempty : ∀ item ∈ items, item ≠ []) :
    items.length ≤ (separated items).length := by
  have counted (rest : List (List Char)) : rest.length ≤ (rest.flatMap (',' :: ·)).length := by
    induction rest with
    | nil => exact Nat.le_refl 0
    | cons item rest ih =>
        rw [List.flatMap_cons, List.length_append, List.length_cons, List.length_cons]
        omega
  cases items with
  | nil => exact Nat.zero_le _
  | cons item rest =>
      have some := List.length_pos_of_ne_nil (nonempty item List.mem_cons_self)
      have more := counted rest
      rw [separated_cons, List.length_append, List.length_cons]
      omega

theorem length_le_of_mem_separated (items : List (List Char)) (item : List Char)
    (member : item ∈ items) : item.length ≤ (separated items).length := by
  cases items with
  | nil => cases member
  | cons first rest =>
      rw [separated_cons, List.length_append]
      rcases List.mem_cons.mp member with rfl | later
      · omega
      · have inside : item <:+: rest.flatMap (',' :: ·) := by
          obtain ⟨front, back, rfl⟩ := List.append_of_mem later
          exact ⟨front.flatMap (',' :: ·) ++ [','], back.flatMap (',' :: ·), by simp⟩
        have short := inside.length_le
        omega

theorem memberChars_eq_map (ms : List (String × Json)) :
    memberChars ms = ms.map fun p => Json.quote p.1 ++ ':' :: p.2.chars := by
  induction ms with
  | nil => rfl
  | cons head ms ih => rw [memberChars, ih, List.map_cons]

theorem itemChars_eq_map (items : List Json) : Json.itemChars items = items.map Json.chars := by
  induction items with
  | nil => rfl
  | cons item items ih => rw [Json.itemChars, ih, List.map_cons]

theorem length_chars_object (ms : List (String × Json)) :
    ms.length ≤ (Json.object ms).chars.length ∧
      ∀ p ∈ ms, p.2.chars.length < (Json.object ms).chars.length := by
  have whole : (Json.object ms).chars.length = (separated (memberChars ms)).length + 2 := by
    simp [Json.chars]
  rw [whole, memberChars_eq_map]
  constructor
  · have some : ∀ item ∈ ms.map fun p => Json.quote p.1 ++ ':' :: p.2.chars, item ≠ [] := by
      intro item member
      obtain ⟨p, -, rfl⟩ := List.mem_map.mp member
      exact List.append_ne_nil_of_right_ne_nil _ (List.cons_ne_nil _ _)
    have short := length_le_separated _ some
    rw [List.length_map] at short
    omega
  · intro p member
    have short := length_le_of_mem_separated _ _ (List.mem_map.mpr ⟨p, member, rfl⟩ :
      _ ∈ ms.map fun p => Json.quote p.1 ++ ':' :: p.2.chars)
    rw [List.length_append, List.length_cons] at short
    omega

end JsonReader

end ProxyCheck
