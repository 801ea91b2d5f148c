/-!
Maps from names to values: pairs in ascending order of names, each name once.
-/
namespace ProxyCheck

abbrev NamedPairs (α : Type) := List (String × α)

namespace NamedPairs

variable {α : Type}

def place (name : String) (value : α) : NamedPairs α → NamedPairs α
  | [] => [(name, value)]
  | (n, v) :: rest =>
    if name < n then (name, value) :: (n, v) :: rest
    else if name = n then (name, value) :: rest
    else (n, v) :: place name value rest

def find? (name : String) : NamedPairs α → Option α
  | [] => none
  | (n, v) :: rest => if n = name then some v else find? name rest

def drop (name : String) (pairs : NamedPairs α) : NamedPairs α :=
  pairs.filter fun p => p.1 ≠ name

/-- Of pairs with the same name, the last stays. -/
def sort (pairs : NamedPairs α) : NamedPairs α :=
  pairs.foldl (fun sorted (name, value) => place name value sorted) []

abbrev Sorted (pairs : NamedPairs α) : Prop :=
  pairs.Pairwise (·.1 < ·.1)

theorem mem_place {name : String} {value : α} {pairs : NamedPairs α} {p : String × α}
    (member : p ∈ pairs.place name value) : p = (name, value) ∨ p ∈ pairs := by
  induction pairs with
  | nil => simpa [place] using member
  | cons head rest ih =>
    simp only [place] at member
    split at member
    · simpa using member
    · split at member <;> simp at member ⊢ <;> grind

theorem place_sorted (name : String) (value : α) (pairs : NamedPairs α) (sorted : pairs.Sorted) :
    (pairs.place name value).Sorted := by
  induction pairs with
  | nil => simp [place, Sorted]
  | cons head rest ih =>
    obtain ⟨below, sorted⟩ := List.pairwise_cons.mp sorted
    simp only [place]
    split
    case isTrue less =>
      refine List.pairwise_cons.mpr ⟨fun p member => ?_, List.pairwise_cons.mpr ⟨below, sorted⟩⟩
      rcases List.mem_cons.mp member with rfl | member
      · exact less
      · exact String.lt_trans less (below p member)
    case isFalse notLess =>
      split
      case isTrue same => exact List.pairwise_cons.mpr ⟨fun p member => same ▸ below p member, sorted⟩
      case isFalse different =>
        refine List.pairwise_cons.mpr ⟨fun p member => ?_, ih sorted⟩
        rcases mem_place member with rfl | member
        · exact Std.lt_of_le_of_ne (String.not_lt.mp notLess) (Ne.symm different)
        · exact below p member

theorem drop_sorted (name : String) (pairs : NamedPairs α) (sorted : pairs.Sorted) :
    (pairs.drop name).Sorted :=
  List.Pairwise.filter _ sorted

theorem map_sorted {β : Type} (f : α → β) (pairs : NamedPairs α) (sorted : pairs.Sorted) :
    Sorted (pairs.map fun p => (p.1, f p.2)) :=
  List.Pairwise.map _ (fun _ _ less => less) sorted

theorem find?_place (name : String) (value : α) (pairs : NamedPairs α) (other : String) :
    (pairs.place name value).find? other =
      if other = name then some value else pairs.find? other := by
  induction pairs with
  | nil => grind [place, find?]
  | cons head rest ih => grind [place, find?]

theorem find?_drop (name : String) (pairs : NamedPairs α) (other : String) :
    (pairs.drop name).find? other = if other = name then none else pairs.find? other := by
  induction pairs with
  | nil => simp [drop, find?]
  | cons head rest ih => grind [drop, find?]

theorem find?_map {β : Type} (f : α → β) (pairs : NamedPairs α) (name : String) :
    find? name (pairs.map fun p => (p.1, f p.2)) = (pairs.find? name).map f := by
  induction pairs with
  | nil => rfl
  | cons head rest ih => grind [find?]

theorem sort_sorted (pairs : NamedPairs α) : pairs.sort.Sorted := by
  have all : ∀ done : NamedPairs α, done.Sorted →
      (pairs.foldl (fun sorted (name, value) => place name value sorted) done).Sorted := by
    induction pairs with
    | nil => exact fun done sorted => sorted
    | cons head rest ih => exact fun done sorted => ih _ (place_sorted _ _ _ sorted)
  exact all [] List.Pairwise.nil

end NamedPairs

structure NameMap (α : Type) where
  pairs : NamedPairs α := []
  sorted : pairs.Sorted := by exact List.Pairwise.nil
  deriving Repr

namespace NameMap

variable {α : Type}

instance [DecidableEq α] : DecidableEq (NameMap α) := fun a b =>
  decidable_of_iff (a.pairs = b.pairs) ⟨fun same => by cases a; cases b; simp_all, fun same => by rw [same]⟩

instance : Inhabited (NameMap α) := ⟨{}⟩

def insert (m : NameMap α) (name : String) (value : α) : NameMap α :=
  ⟨m.pairs.place name value, NamedPairs.place_sorted name value m.pairs m.sorted⟩

def ofPairs (pairs : NamedPairs α) : NameMap α :=
  ⟨pairs.sort, pairs.sort_sorted⟩

def erase (m : NameMap α) (name : String) : NameMap α :=
  ⟨m.pairs.drop name, NamedPairs.drop_sorted name m.pairs m.sorted⟩

def map {β : Type} (f : α → β) (m : NameMap α) : NameMap β :=
  ⟨m.pairs.map fun p => (p.1, f p.2), NamedPairs.map_sorted f m.pairs m.sorted⟩

def names (m : NameMap α) : List String :=
  m.pairs.map (·.1)

def get? (m : NameMap α) (name : String) : Option α :=
  m.pairs.find? name

@[simp] theorem get?_insert (m : NameMap α) (name : String) (value : α) (other : String) :
    (m.insert name value).get? other = if other = name then some value else m.get? other :=
  NamedPairs.find?_place name value m.pairs other

@[simp] theorem get?_erase (m : NameMap α) (name other : String) :
    (m.erase name).get? other = if other = name then none else m.get? other :=
  NamedPairs.find?_drop name m.pairs other

@[simp] theorem get?_map {β : Type} (f : α → β) (m : NameMap α) (name : String) :
    (m.map f).get? name = (m.get? name).map f :=
  NamedPairs.find?_map f m.pairs name

end NameMap

end ProxyCheck
