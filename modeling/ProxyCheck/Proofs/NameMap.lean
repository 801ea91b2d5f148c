import Mathlib
import ProxyCheck.NameMap

/-! A map from names is known by what it gives for each name. -/
namespace ProxyCheck

namespace NamedPairs

variable {α : Type}

theorem find?_none_of_above (name : String) (pairs : NamedPairs α)
    (above : ∀ p ∈ pairs, name < p.1) : pairs.find? name = none := by
  induction pairs with
  | nil => rfl
  | cons head rest ih =>
      have apart : head.1 ≠ name := by
        intro same
        exact String.lt_irrefl name (same ▸ above head List.mem_cons_self)
      rw [find?, if_neg apart]
      exact ih fun p member => above p (List.mem_cons_of_mem _ member)

theorem find?_append (name : String) (front back : NamedPairs α) :
    find? name (front ++ back) = (find? name front <|> find? name back) := by
  induction front with
  | nil => rfl
  | cons head rest ih =>
      rw [List.cons_append, find?, find?, ih]
      split
      · rfl
      · rfl

theorem find?_eq_none_iff (name : String) (pairs : NamedPairs α) :
    pairs.find? name = none ↔ ∀ p ∈ pairs, p.1 ≠ name := by
  induction pairs with
  | nil => simp [find?]
  | cons head rest ih =>
      by_cases same : head.1 = name
      · simp [find?, same]
      · simp [find?, same, ih]

theorem mem_of_find? (name : String) (value : α) (pairs : NamedPairs α)
    (found : pairs.find? name = some value) : (name, value) ∈ pairs := by
  induction pairs with
  | nil => cases found
  | cons head rest ih =>
      rw [find?] at found
      split at found
      · rename_i same
        cases found
        exact same ▸ List.mem_cons_self
      · exact List.mem_cons_of_mem _ (ih found)

theorem find?_of_mem (name : String) (value : α) (pairs : NamedPairs α)
    (distinct : (pairs.map Prod.fst).Nodup) (member : (name, value) ∈ pairs) :
    pairs.find? name = some value := by
  induction pairs with
  | nil => cases member
  | cons head rest ih =>
      rw [List.map_cons, List.nodup_cons] at distinct
      rcases List.mem_cons.mp member with rfl | later
      · exact if_pos rfl
      · have apart : head.1 ≠ name := fun same =>
          distinct.1 (same ▸ List.mem_map_of_mem later)
        rw [find?, if_neg apart]
        exact ih distinct.2 later

theorem find?_perm (name : String) (pairs others : NamedPairs α)
    (distinct : (pairs.map Prod.fst).Nodup) (perm : pairs.Perm others) :
    pairs.find? name = others.find? name := by
  have distinct' : (others.map Prod.fst).Nodup := (perm.map Prod.fst).nodup distinct
  cases found : others.find? name with
  | none =>
      rw [find?_eq_none_iff] at found ⊢
      exact fun p member => found p (perm.mem_iff.mp member)
  | some value =>
      have member := mem_of_find? name value others found
      exact find?_of_mem name value pairs distinct (perm.mem_iff.mpr member)

theorem find?_filter (keep : String → Bool) (name : String) (pairs : NamedPairs α)
    (kept : keep name) : find? name (pairs.filter fun p => keep p.1) = pairs.find? name := by
  induction pairs with
  | nil => rfl
  | cons head rest ih =>
      by_cases same : head.1 = name
      · rw [List.filter_cons_of_pos (same ▸ kept), find?, find?, if_pos same, if_pos same]
      · rw [List.filter_cons]
        split
        · rw [find?, find?, if_neg same, if_neg same, ih]
        · rw [find?, if_neg same, ih]

theorem find?_foldl_place (name : String) (pairs done : NamedPairs α) :
    find? name (pairs.foldl (fun sorted (name, value) => place name value sorted) done) =
      (find? name pairs.reverse <|> find? name done) := by
  induction pairs generalizing done with
  | nil => rfl
  | cons head rest ih =>
      rw [List.foldl_cons, ih, find?_place, List.reverse_cons, find?_append, find?]
      by_cases same : head.1 = name
      · simp [same]
      · simp [same, Ne.symm same, find?]

theorem find?_sort (name : String) (pairs : NamedPairs α) (distinct : (pairs.map Prod.fst).Nodup) :
    pairs.sort.find? name = pairs.find? name := by
  have turned := find?_perm name pairs pairs.reverse distinct (List.reverse_perm pairs).symm
  rw [sort, find?_foldl_place, turned]
  simp [find?]

theorem mem_iff_find? (pairs : NamedPairs α) (sorted : pairs.Sorted) (name : String) (value : α) :
    (name, value) ∈ pairs ↔ pairs.find? name = some value := by
  induction pairs with
  | nil => simp [find?]
  | cons head rest ih =>
      rcases head with ⟨n, v⟩
      rcases List.pairwise_cons.mp sorted with ⟨above, sorted⟩
      by_cases same : n = name
      · subst same
        have absent := find?_none_of_above n rest above
        have outside : (n, value) ∉ rest := by
          rw [ih sorted, absent]
          simp
        simp [find?, outside, eq_comm]
      · simp [find?, same, Ne.symm same, ih sorted]

theorem sorted_nodup (pairs : NamedPairs α) (sorted : pairs.Sorted) : pairs.Nodup := by
  apply sorted.imp
  intro p q less same
  subst same
  exact String.lt_irrefl p.1 less

theorem place_last (name : String) (value : α) (pairs : NamedPairs α)
    (below : ∀ p ∈ pairs, p.1 < name) : pairs.place name value = pairs ++ [(name, value)] := by
  induction pairs with
  | nil => rfl
  | cons head rest ih =>
      have less := below head List.mem_cons_self
      have later : ¬name < head.1 := fun other => String.lt_irrefl _ (String.lt_trans less other)
      have apart : name ≠ head.1 := fun same => String.lt_irrefl name (by rwa [← same] at less)
      rw [place, if_neg later, if_neg apart,
        ih fun p member => below p (List.mem_cons_of_mem head member)]
      rfl

theorem foldl_place_sorted (pairs done : NamedPairs α) (sorted : Sorted (done ++ pairs)) :
    pairs.foldl (fun sorted (name, value) => place name value sorted) done = done ++ pairs := by
  induction pairs generalizing done with
  | nil => exact (List.append_nil done).symm
  | cons head rest ih =>
      rcases head with ⟨name, value⟩
      have below : ∀ p ∈ done, p.1 < name := fun p member =>
        (List.pairwise_append.mp sorted).2.2 p member (name, value) List.mem_cons_self
      rw [List.foldl_cons]
      simp only
      rw [place_last name value done below, ih]
      · simp
      · simpa using sorted

theorem mem_of_mem_foldl_place (pairs done : NamedPairs α) (p : String × α)
    (member : p ∈ pairs.foldl (fun sorted (name, value) => place name value sorted) done) :
    p ∈ done ∨ p ∈ pairs := by
  induction pairs generalizing done with
  | nil => exact .inl member
  | cons head rest ih =>
      rcases ih _ member with placed | later
      · rcases mem_place placed with rfl | early
        · exact .inr List.mem_cons_self
        · exact .inl early
      · exact .inr (List.mem_cons_of_mem head later)

theorem eq_of_mem_iff (a b : NamedPairs α) (sortedA : a.Sorted) (sortedB : b.Sorted)
    (same : ∀ p, p ∈ a ↔ p ∈ b) : a = b := by
  have perm : a.Perm b :=
    (List.perm_ext_iff_of_nodup (sorted_nodup a sortedA) (sorted_nodup b sortedB)).mpr same
  refine perm.eq_of_pairwise (fun p q _ _ less more => ?_) sortedA sortedB
  exact absurd (String.lt_trans less more) (String.lt_irrefl _)

theorem sort_of_perm (pairs others : NamedPairs α) (sorted : others.Sorted)
    (perm : pairs.Perm others) : pairs.sort = others := by
  have names : (others.map Prod.fst).Nodup := by
    rw [List.Nodup, List.pairwise_map]
    exact sorted.imp fun less => String.ne_of_lt less
  have distinct : (pairs.map Prod.fst).Nodup := (perm.map Prod.fst).nodup_iff.mpr names
  apply eq_of_mem_iff _ _ pairs.sort_sorted sorted
  rintro ⟨name, value⟩
  rw [mem_iff_find? _ pairs.sort_sorted, mem_iff_find? _ sorted, find?_sort name pairs distinct,
    find?_perm name pairs others distinct perm]

end NamedPairs

namespace NameMap

variable {α : Type}

theorem mem_pairs_iff (m : NameMap α) (name : String) (value : α) :
    (name, value) ∈ m.pairs ↔ m.get? name = some value :=
  NamedPairs.mem_iff_find? m.pairs m.sorted name value

theorem get?_ofPairs (pairs : NamedPairs α) (name : String) :
    (ofPairs pairs).get? name = NamedPairs.find? name pairs.reverse :=
  (NamedPairs.find?_foldl_place name pairs []).trans (by simp [NamedPairs.find?])

theorem mem_of_mem_ofPairs (pairs : NamedPairs α) (p : String × α)
    (member : p ∈ (ofPairs pairs).pairs) : p ∈ pairs :=
  (NamedPairs.mem_of_mem_foldl_place pairs [] p member).resolve_left List.not_mem_nil

theorem ofPairs_pairs (m : NameMap α) : ofPairs m.pairs = m := by
  have same : m.pairs.sort = m.pairs := NamedPairs.foldl_place_sorted m.pairs [] m.sorted
  cases m
  simp only [ofPairs, same]

theorem ext_get? (a b : NameMap α) (same : ∀ name, a.get? name = b.get? name) : a = b := by
  have pairs : a.pairs = b.pairs := by
    apply NamedPairs.eq_of_mem_iff a.pairs b.pairs a.sorted b.sorted
    rintro ⟨name, value⟩
    rw [mem_pairs_iff, mem_pairs_iff, same]
  cases a
  cases b
  cases pairs
  rfl

theorem mem_names_iff (m : NameMap α) (name : String) :
    name ∈ m.names ↔ (m.get? name).isSome := by
  simp only [names, List.mem_map, Prod.exists, Option.isSome_iff_exists, ← mem_pairs_iff]
  constructor
  · rintro ⟨_, value, member, rfl⟩
    exact ⟨value, member⟩
  · rintro ⟨value, member⟩
    exact ⟨name, value, member, rfl⟩

end NameMap

end ProxyCheck
