import ProxyCheck.Json.Scanner

/-!
JSON arrays, objects and values. Arrays and objects stand inside each other up to a limit, except
where a value is only passed over. `size` is a number that no array or object has more items than;
the length of the whole text is one.
-/
namespace ProxyCheck.JsonReader

def hasItem (first : Bool) : JsonReader Bool := fun cs =>
  match skipBlanks cs with
  | [] => .error .unfinished
  | ']' :: rest => .ok (false, ']' :: rest)
  | c :: rest =>
    if first then .ok (true, c :: rest)
    else if c = ',' then
      match skipBlanks rest with
      | [] => .error .unfinished
      | ']' :: _ => .error .malformed
      | rest => .ok (true, rest)
    else .error .malformed

def close (bracket : Char) : JsonReader Unit := fun cs =>
  match skipBlanks cs with
  | [] => .error .unfinished
  | c :: rest => if c = bracket then .ok ((), rest) else .error .malformed

def itemsFrom {α : Type} (item : JsonReader α) : Nat → Bool → JsonReader (List α)
  | 0, _, _ => .error .unfinished
  | fuel + 1, first, cs => do
    let (more, cs) ← hasItem first cs
    if more then
      let (x, cs) ← item cs
      let (xs, cs) ← itemsFrom item fuel false cs
      return (x :: xs, cs)
    else return ([], cs)

def items {α : Type} (size : Nat) (item : JsonReader α) : JsonReader (List α) := fun cs => do
  let (xs, cs) ← itemsFrom item (size + 1) true cs
  let ((), cs) ← close ']' cs
  return (xs, cs)

def hasMember (first : Bool) : JsonReader Bool := fun cs =>
  match skipBlanks cs with
  | [] => .error .unfinished
  | '\x7D' :: rest => .ok (false, '\x7D' :: rest)
  | c :: rest =>
    if first then if c = '"' then .ok (true, rest) else .error .malformed
    else if c = ',' then
      match skipBlanks rest with
      | [] => .error .unfinished
      | c :: rest => if c = '"' then .ok (true, rest) else .error .malformed
    else .error .malformed

def membersFrom {κ σ : Type} (key : JsonReader κ) (member : σ → κ → JsonReader σ) :
    Nat → Bool → σ → JsonReader σ
  | 0, _, _, _ => .error .unfinished
  | fuel + 1, first, state, cs => do
    let (more, cs) ← hasMember first cs
    if more then
      let (k, cs) ← key cs
      let ((), cs) ← close ':' cs
      let (state, cs) ← member state k cs
      membersFrom key member fuel false state cs
    else return (state, cs)

def members {κ σ : Type} (size : Nat) (key : JsonReader κ) (member : σ → κ → JsonReader σ)
    (start : σ) : JsonReader σ :=
  membersFrom key member (size + 1) true start

/-- Of members with the same key, the last stays. -/
def placeMember (value : JsonReader Json) (done : List (String × Json)) (key : String) :
    JsonReader (List (String × Json)) := fun cs => do
  let (x, cs) ← value cs
  return (NamedPairs.place key x done, cs)

def sortedMembers (size : Nat) (value : JsonReader Json) : JsonReader (List (String × Json)) :=
  fun cs => do
  let (done, cs) ← members size string (placeMember value) [] cs
  let ((), cs) ← close '\x7D' cs
  return (done, cs)

def valueOver (size : Nat) (inner : Option (JsonReader Json)) : JsonReader Json := fun cs =>
  match skipBlanks cs with
  | [] => .error .unfinished
  | 'n' :: rest => do
    let ((), rest) ← word "ull".toList rest
    return (.null, rest)
  | 't' :: rest => do
    let ((), rest) ← word "rue".toList rest
    return (.bool true, rest)
  | 'f' :: rest => do
    let ((), rest) ← word "alse".toList rest
    return (.bool false, rest)
  | '"' :: rest => do
    let (text, rest) ← string rest
    return (.string text, rest)
  | '[' :: rest =>
    match inner with
    | none => .error .malformed
    | some inner => do
      let (xs, rest) ← items size inner rest
      return (.array xs, rest)
  | '\x7B' :: rest =>
    match inner with
    | none => .error .malformed
    | some inner => do
      let (members, rest) ← sortedMembers size inner rest
      return (.object members, rest)
  | c :: rest =>
    if c = '-' ∨ c.isDigit then do
      let (n, rest) ← signedNumber (c :: rest)
      return (.number n, rest)
    else .error .malformed

def value (size : Nat) : Nat → JsonReader Json
  | 0 => valueOver size none
  | depth + 1 => valueOver size (some (value size depth))

def skipOver (size : Nat) (inner : JsonReader Unit) : JsonReader Unit := fun cs =>
  match skipBlanks cs with
  | [] => .error .unfinished
  | 'n' :: rest => word "ull".toList rest
  | 't' :: rest => word "rue".toList rest
  | 'f' :: rest => word "alse".toList rest
  | '"' :: rest => skipString rest
  | '[' :: rest => do
    let (_, rest) ← items size inner rest
    return ((), rest)
  | '\x7B' :: rest => do
    let ((), rest) ← members size skipString (fun () () => inner) () rest
    close '\x7D' rest
  | '-' :: rest => skipNumber rest
  | c :: rest => if c.isDigit then skipNumber (c :: rest) else .error .malformed

def skipWithin (size : Nat) : Nat → JsonReader Unit
  | 0, _ => .error .unfinished
  | depth + 1, cs => skipOver size (skipWithin size depth) cs

/-- Passes over a value, however deep it is. -/
def skip (size : Nat) : JsonReader Unit :=
  skipWithin size (size + 1)

def whole? {α : Type} (read : JsonReader α) (text : String) : Except JsonFault α := do
  let (x, rest) ← read text.toList
  if (skipBlanks rest).isEmpty then return x else throw .malformed

end ProxyCheck.JsonReader
