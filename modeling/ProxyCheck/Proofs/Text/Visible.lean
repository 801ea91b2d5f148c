import Mathlib
import ProxyCheck.Text.Blank
import ProxyCheck.Text.Utf8

/-! Text of visible ASCII characters: there is nothing to trim, and each character is one byte. -/
namespace ProxyCheck

def isVisible (c : Char) : Bool :=
  0x20 < c.toNat && c.toNat < 0x7F

/-- What holds of every ASCII character can be looked up. -/
theorem of_ascii (P : Char → Prop) (all : ∀ n, n < 0x80 → P (Char.ofNat n)) (c : Char)
    (ascii : c.toNat < 0x80) : P c := by
  have here := all c.toNat ascii
  rwa [Char.ofNat_toNat] at here

/-- What holds of the characters of a written text can be looked up, without a look at all others. -/
theorem of_mem (P : Char → Prop) [DecidablePred P] (text : List Char)
    (all : text.all fun c => decide (P c)) (c : Char) (member : c ∈ text) : P c :=
  of_decide_eq_true (List.all_eq_true.mp all c member)

theorem dropTrailing_eq_self {α : Type} (p : α → Bool) (xs : List α) (none : ∀ x ∈ xs, p x = false) :
    dropTrailing p xs = xs := by
  have kept : xs.reverse.dropWhile p = xs.reverse := by
    cases reversed : xs.reverse with
    | nil => rfl
    | cons last rest =>
        have member : last ∈ xs := List.mem_reverse.mp (reversed ▸ List.mem_cons_self)
        rw [List.dropWhile_cons, none last member]
        rfl
  rw [dropTrailing, kept, List.reverse_reverse]

theorem dropTrailing_append {α : Type} (p : α → Bool) (text : List α) :
    ∃ dropped, text = dropTrailing p text ++ dropped ∧ ∀ c ∈ dropped, p c := by
  refine ⟨(text.reverse.takeWhile p).reverse, ?_, ?_⟩
  · rw [dropTrailing, ← List.reverse_append, List.takeWhile_append_dropWhile, List.reverse_reverse]
  · intro c member
    exact List.mem_takeWhile_imp (List.mem_reverse.mp member)

theorem mem_of_mem_dropTrailing {α : Type} (p : α → Bool) (text : List α) (c : α)
    (member : c ∈ dropTrailing p text) : c ∈ text := by
  obtain ⟨dropped, split, -⟩ := dropTrailing_append p text
  rw [split]
  exact List.mem_append_left dropped member

theorem head?_dropTrailing {α : Type} (p starts : α → Bool) (text : List α)
    (first : text.head?.all starts) : (dropTrailing p text).head?.all starts := by
  obtain ⟨dropped, split, -⟩ := dropTrailing_append p text
  generalize dropTrailing p text = kept at split
  cases kept with
  | nil => rfl
  | cons c kept =>
      rw [split] at first
      exact first

theorem getLast?_dropTrailing {α : Type} (p : α → Bool) (text : List α) (c : α)
    (last : (dropTrailing p text).getLast? = some c) : p c = false := by
  rw [dropTrailing, List.getLast?_reverse] at last
  have stop := List.head?_dropWhile_not p text.reverse
  rw [last] at stop
  simpa using stop

theorem dropTrailing_append_all {α : Type} (p : α → Bool) (text dropped : List α)
    (last : ∀ c, text.getLast? = some c → p c = false) (all : ∀ c ∈ dropped, p c) :
    dropTrailing p (text ++ dropped) = text := by
  have back : ∀ c ∈ dropped.reverse, p c := fun c member => all c (List.mem_reverse.mp member)
  have front : text.reverse.dropWhile p = text.reverse := by
    cases turned : text.reverse with
    | nil => rfl
    | cons c rest =>
        have same : text.getLast? = some c := by
          rw [List.getLast?_eq_head?_reverse, turned]
          rfl
        exact List.dropWhile_cons_of_neg (by simp [last c same])
  rw [dropTrailing, List.reverse_append, List.dropWhile_append_of_pos back, front,
    List.reverse_reverse]

theorem length_dropTrailing {α : Type} (p : α → Bool) (front back : List α) (c : α)
    (kept : p c = false) : front.length < (dropTrailing p (front ++ c :: back)).length := by
  obtain ⟨dropped, split, all⟩ := dropTrailing_append p (front ++ c :: back)
  have stays : c ∉ dropped := by
    intro gone
    rw [all c gone] at kept
    cases kept
  rcases List.append_eq_append_iff.mp split with ⟨more, longer, rest⟩ | ⟨more, -, rest⟩
  · cases more with
    | nil =>
        rw [List.nil_append] at rest
        exact absurd (rest ▸ List.mem_cons_self) stays
    | cons d more => simp [longer]
  · exact absurd (rest ▸ List.mem_append_right more List.mem_cons_self) stays

theorem trimBoth_eq_self {α : Type} (p : α → Bool) (xs : List α) (none : ∀ x ∈ xs, p x = false) :
    trimBoth p xs = xs := by
  have kept : xs.dropWhile p = xs := by
    cases xs with
    | nil => rfl
    | cons first rest =>
        rw [List.dropWhile_cons, none first List.mem_cons_self]
        rfl
  rw [trimBoth, kept, dropTrailing_eq_self p xs none]

theorem dropWhile_append_cons {α : Type} (p : α → Bool) (front back : List α) (x : α)
    (kept : p x = false) :
    (front ++ x :: back).dropWhile p = front.dropWhile p ++ x :: back := by
  rw [List.dropWhile_append]
  split
  · rename_i all
    rw [List.isEmpty_iff.mp all, List.nil_append]
    exact List.dropWhile_cons_of_neg (by simp [kept])
  · rfl

theorem head?_dropWhile {α : Type} (p : α → Bool) (xs : List α) :
    (xs.dropWhile p).head?.all (!p ·) := by
  have stop := List.head?_dropWhile_not p xs
  cases found : (xs.dropWhile p).head? with
  | none => rfl
  | some x =>
      rw [found] at stop
      simpa using stop

theorem span_append_of_mem (p : Char → Bool) (front back : List Char) (c : Char)
    (member : c ∈ front) (stop : p c = false) :
    (front ++ back).takeWhile p = front.takeWhile p ∧
      (front ++ back).dropWhile p = front.dropWhile p ++ back := by
  induction front with
  | nil => cases member
  | cons d rest ih =>
      by_cases more : p d
      · have later : c ∈ rest := by
          rcases List.mem_cons.mp member with rfl | later
          · rw [more] at stop
            cases stop
          · exact later
        obtain ⟨take, drop⟩ := ih later
        simp only [List.cons_append, List.takeWhile_cons_of_pos more, List.dropWhile_cons_of_pos more]
        exact ⟨congrArg (d :: ·) take, drop⟩
      · simp [more]

theorem dropTrailing_append_cons {α : Type} (p : α → Bool) (front back : List α) (x : α)
    (kept : p x = false) :
    dropTrailing p (front ++ x :: back) = front ++ x :: dropTrailing p back := by
  have reversed : (front ++ x :: back).reverse = back.reverse ++ x :: front.reverse := by simp
  rw [dropTrailing, dropTrailing, reversed, dropWhile_append_cons p _ _ x kept]
  simp

theorem dropTrailing_append_word {α : Type} (p : α → Bool) (front word after : List α)
    (nonempty : word ≠ []) (kept : ∀ x ∈ word, p x = false) :
    dropTrailing p (front ++ (word ++ after)) = front ++ (word ++ dropTrailing p after) := by
  rcases List.eq_nil_or_concat word with empty | ⟨start, last, rfl⟩
  · exact absurd empty nonempty
  · have stays := dropTrailing_append_cons p (front ++ start) after last (kept last (by simp))
    simpa using stays

theorem trimBoth_append {α : Type} (p : α → Bool) (before word after : List α)
    (nonempty : word ≠ []) (kept : ∀ x ∈ word, p x = false) :
    trimBoth p (before ++ (word ++ after)) =
      before.dropWhile p ++ (word ++ dropTrailing p after) := by
  have front : (before ++ (word ++ after)).dropWhile p = before.dropWhile p ++ (word ++ after) := by
    obtain ⟨first, rest, rfl⟩ := List.exists_cons_of_ne_nil nonempty
    exact dropWhile_append_cons p before (rest ++ after) first (kept first List.mem_cons_self)
  rw [trimBoth, front, dropTrailing_append_word p _ word after nonempty kept]

theorem trimBoth_between {α : Type} (p : α → Bool) (before inner after : List α) (x y : α)
    (first : p x = false) (last : p y = false) :
    trimBoth p (before ++ x :: (inner ++ y :: after)) =
      before.dropWhile p ++ x :: (inner ++ y :: dropTrailing p after) := by
  have back := dropTrailing_append_cons p (before.dropWhile p ++ x :: inner) after y last
  rw [trimBoth, dropWhile_append_cons p before _ x first]
  simpa using back

theorem isBlank_of_visible (c : Char) (visible : isVisible c) : isBlank c = false := by
  simp only [isVisible, Bool.and_eq_true, decide_eq_true_eq] at visible
  simp only [isBlank]
  grind

theorem trimBlank_visible (text : String) (visible : ∀ c ∈ text.toList, isVisible c) :
    trimBlank text = text := by
  rw [trimBlank, trimBoth_eq_self _ _ fun c member => isBlank_of_visible c (visible c member)]
  exact String.ofList_toList

theorem utf8EncodeChar_ascii (c : Char) (ascii : c.toNat < 0x80) :
    String.utf8EncodeChar c = [UInt8.ofNat c.toNat] := by
  have below : c.val.toNat ≤ 0x7F := Nat.le_of_lt_succ ascii
  simp only [String.utf8EncodeChar]
  rw [if_pos below]
  rfl

theorem le_of_mem_utf8EncodeChar (c : Char) (wide : 0x80 ≤ c.toNat) (b : UInt8)
    (member : b ∈ String.utf8EncodeChar c) : 0x80 ≤ b.toNat := by
  have high (n size base : Nat) (some : 0 < size) (fits : size + base ≤ 0x100)
      (large : 0x80 ≤ base) : 0x80 ≤ (UInt8.ofNat (n % size + base)).toNat := by
    have less := Nat.mod_lt n some
    rw [UInt8.toNat_ofNat_of_lt' (by simp only [UInt8.size]; omega)]
    omega
  have large : ¬c.val.toNat ≤ 0x7F := Nat.not_le_of_lt wide
  simp only [String.utf8EncodeChar, if_neg large] at member
  split_ifs at member <;> simp only [List.mem_cons, List.not_mem_nil, or_false] at member
  · rcases member with rfl | rfl <;> exact high _ _ _ (by decide) (by decide) (by decide)
  · rcases member with rfl | rfl | rfl <;> exact high _ _ _ (by decide) (by decide) (by decide)
  · rcases member with rfl | rfl | rfl | rfl <;>
      exact high _ _ _ (by decide) (by decide) (by decide)

theorem toNat_of_mem_utf8EncodeChar (c : Char) (b : UInt8) (member : b ∈ String.utf8EncodeChar c)
    (small : b.toNat < 0x80) : c.toNat = b.toNat := by
  by_cases ascii : c.toNat < 0x80
  · rw [utf8EncodeChar_ascii c ascii, List.mem_singleton] at member
    have byte : c.toNat < UInt8.size := Nat.lt_trans ascii (by decide)
    rw [member, UInt8.toNat_ofNat_of_lt' byte]
  · have large := le_of_mem_utf8EncodeChar c (Nat.le_of_not_lt ascii) b member
    omega

theorem lead_ascii (c : Char) (ascii : c.toNat < 0x80) :
    Utf8.lead (UInt8.ofNat c.toNat) = ([.char c], none) := by
  have byte : c.toNat < UInt8.size := Nat.lt_trans ascii (by decide)
  have same : (UInt8.ofNat c.toNat).toNat = c.toNat := UInt8.toNat_ofNat_of_lt' byte
  rw [Utf8.lead, same, if_pos ascii, Char.ofNat_toNat]

theorem decode?_ascii (text : List Char) (ascii : ∀ c ∈ text, c.toNat < 0x80) :
    Utf8.decode? (text.map fun c => UInt8.ofNat c.toNat) = some text := by
  have pieces : Utf8.pieces (text.map fun c => UInt8.ofNat c.toNat) =
      text.map Utf8.Piece.char := by
    rw [Utf8.pieces]
    induction text with
    | nil => rfl
    | cons c rest ih =>
        rw [List.map_cons, Utf8.piecesFrom, Utf8.feed, lead_ascii c (ascii c List.mem_cons_self)]
        simp only
        rw [ih fun d member => ascii d (List.mem_cons_of_mem _ member)]
        rfl
  rw [Utf8.decode?, pieces]
  clear pieces ascii
  induction text with
  | nil => rfl
  | cons c rest ih =>
      rw [List.map_cons, List.mapM_cons, ih]
      rfl

end ProxyCheck
