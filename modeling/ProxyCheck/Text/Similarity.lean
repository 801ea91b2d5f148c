/-!
How alike two words are, by the characters that they share at about the same place.
-/
namespace ProxyCheck.Similarity

def occupy? (c : Char) (low high : Nat) : Nat → List (Char × Bool) → Option (List (Char × Bool))
  | _, [] => none
  | place, (d, taken) :: rest =>
    if low ≤ place && place ≤ high && d == c && !taken then some ((d, true) :: rest)
    else (occupy? c low high (place + 1) rest).map ((d, taken) :: ·)

def partners (reach : Nat) : Nat → List Char → List (Char × Bool) → List Char × List (Char × Bool)
  | _, [], other => ([], other)
  | place, c :: rest, other =>
    match occupy? c (place - reach) (place + reach) 0 other with
    | some other =>
      let (found, other) := partners reach (place + 1) rest other
      (c :: found, other)
    | none => partners reach (place + 1) rest other

/-- Partners within half the length of the longer word count, less those that stand in another
order. Two equal words have 1, two words without a common character 0. -/
def jaro (a b : List Char) : Float :=
  if a.isEmpty && b.isEmpty then 1
  else
    let reach := max a.length b.length / 2 - 1
    let (left, marked) := partners reach 0 a (b.map (·, false))
    let right := (marked.filter (·.2)).map (·.1)
    let m := left.length
    let swapped := ((left.zip right).countP fun (x, y) => x ≠ y) / 2
    if m = 0 then 0
    else
      (m.toFloat / a.length.toFloat + m.toFloat / b.length.toFloat +
        (m - swapped).toFloat / m.toFloat) / 3

end ProxyCheck.Similarity
