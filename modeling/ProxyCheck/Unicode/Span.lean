import ProxyCheck.Text.Hex

/-!
Tables over characters, written as text. An item is a hexadecimal number, or two with a hyphen
between them for a run, and then a note of its own; items are kept in ascending order and blanks
separate them.
-/
namespace ProxyCheck

structure Span (α : Type) where
  first : Nat
  last : Nat
  value : α
  deriving Repr

namespace Span

def items (text : String) : List (List Char) :=
  let (item, rest) := text.toList.foldr
    (fun c (item, rest) =>
      if c == ' ' || c == '\n' then ([], if item.isEmpty then rest else item :: rest)
      else (c :: item, rest))
    ([], [])
  if item.isEmpty then rest else item :: rest

def takeNumber (cs : List Char) : Nat × List Char :=
  (digitsValue 16 (cs.takeWhile isHex), cs.dropWhile isHex)

def ofItem {α : Type} (note : List Char → α) (item : List Char) : Span α :=
  let (first, rest) := takeNumber item
  match rest with
  | '-' :: rest =>
    let (last, rest) := takeNumber rest
    ⟨first, last, note rest⟩
  | rest => ⟨first, first, note rest⟩

def table {α : Type} (note : List Char → α) (text : String) : Array (Span α) :=
  ((items text).map (ofItem note)).toArray

def search {α : Type} (spans : Array (Span α)) (n low high : Nat) : Option (Span α) :=
  if low < high then
    let middle := (low + high) / 2
    match spans[middle]? with
    | none => none
    | some span =>
      if n < span.first then search spans n low middle
      else if span.last < n then search spans n (middle + 1) high
      else some span
  else none
termination_by high - low

def find? {α : Type} (spans : Array (Span α)) (c : Char) : Option (Span α) :=
  search spans c.toNat 0 spans.size

def value? {α : Type} (spans : Array (Span α)) (c : Char) : Option α :=
  (find? spans c).map Span.value

theorem search_holds {α : Type} {spans : Array (Span α)} {n low high : Nat} {span : Span α}
    (found : search spans n low high = some span) : span.first ≤ n ∧ n ≤ span.last := by
  fun_induction search spans n low high <;> grind

end Span

end ProxyCheck
