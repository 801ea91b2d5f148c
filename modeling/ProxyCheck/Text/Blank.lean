/-!
White space as Unicode lists it, and trimming by it.
-/
namespace ProxyCheck

def isBlank (c : Char) : Bool :=
  let n := c.toNat
  (0x9 ≤ n && n ≤ 0xD) || n == 0x20 || n == 0x85 || n == 0xA0 || n == 0x1680 ||
    (0x2000 ≤ n && n ≤ 0x200A) || n == 0x2028 || n == 0x2029 || n == 0x202F ||
    n == 0x205F || n == 0x3000

def dropTrailing {α : Type} (p : α → Bool) (xs : List α) : List α :=
  (xs.reverse.dropWhile p).reverse

def trimBoth {α : Type} (p : α → Bool) (xs : List α) : List α :=
  dropTrailing p (xs.dropWhile p)

def trimBlank (text : String) : String :=
  String.ofList (trimBoth isBlank text.toList)

theorem isBlank_of_isWhitespace (c : Char) (white : c.isWhitespace) : isBlank c := by
  simp only [Char.isWhitespace, Bool.or_eq_true, decide_eq_true_eq] at white
  rcases white with ((rfl | rfl) | rfl) | rfl <;> decide

end ProxyCheck
