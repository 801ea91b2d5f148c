import ProxyCheck.Json.Reader

/-!
Records in JSON: objects with known keys. Keys may come in any order, once each; unknown ones are
passed over. An array with the values in the order of the keys will do as well.
-/
namespace ProxyCheck

inductive Shape where
  | text
  /-- A whole number up to a bound. -/
  | natural (bound : Nat)
  | optional (shape : Shape)
  /-- An object with any keys and values. -/
  | map
  deriving DecidableEq, Repr

structure Slot where
  key : String
  shape : Shape
  /-- Whether an array may end before this value. -/
  mayEnd : Bool := false
  deriving DecidableEq, Repr

namespace JsonReader

def nestingLimit : Nat := 127

/-- What is wrong where a value of another shape was asked for. A scalar is read first. -/
def mismatch (cs : List Char) : JsonFault :=
  match cs with
  | '[' :: _ | '\x7B' :: _ => .mismatched
  | cs =>
    match valueOver 0 none cs with
    | .ok _ => .mismatched
    | .error fault => fault

def readText : JsonReader Json := fun cs =>
  match skipBlanks cs with
  | [] => .error .unfinished
  | '"' :: rest => do
    let (text, rest) ← string rest
    return (.string text, rest)
  | cs => .error (mismatch cs)

def readNatural (bound : Nat) : JsonReader Json := fun cs =>
  match skipBlanks cs with
  | [] => .error .unfinished
  | c :: rest =>
    if c = '-' ∨ c.isDigit then do
      match ← signedNumber (c :: rest) with
      | (.whole n, rest) =>
        if 0 ≤ n ∧ n ≤ bound then return (.number (.whole n), rest) else throw .mismatched
      | _ => throw .mismatched
    else .error (mismatch (c :: rest))

def readMap (size depth : Nat) : JsonReader Json := fun cs =>
  match skipBlanks cs with
  | [] => .error .unfinished
  | '\x7B' :: rest =>
    match depth with
    | 0 => .error .malformed
    | depth + 1 => do
      let (members, rest) ← sortedMembers size (value size depth) rest
      return (.object members, rest)
  | cs => .error (mismatch cs)

def shaped (size depth : Nat) : Shape → JsonReader Json
  | .text => readText
  | .natural bound => readNatural bound
  | .map => readMap size depth
  | .optional shape => fun cs =>
    match skipBlanks cs with
    | 'n' :: rest => do
      let ((), rest) ← word "ull".toList rest
      return (.null, rest)
    | cs => shaped size depth shape cs

abbrev Found := List (Option Json)

def fill (size depth : Nat) : List Slot → Found → String → JsonReader Found
  | slot :: slots, x :: found, key => fun cs =>
    if slot.key = key then
      if x.isSome then .error .mismatched
      else do
        let (x, cs) ← shaped size depth slot.shape cs
        return (some x :: found, cs)
    else do
      let (found, cs) ← fill size depth slots found key cs
      return (x :: found, cs)
  | _, found, _ => fun cs => do
    let ((), cs) ← skip size cs
    return (found, cs)

def settle : Slot × Option Json → Except JsonFault Json
  | (_, some x) => .ok x
  | (⟨_, .optional _, _⟩, none) => .ok .null
  | _ => .error .mismatched

def objectRecord (size depth : Nat) (slots : List Slot) : JsonReader (List Json) := fun cs => do
  let (found, cs) ← members size string (fill size depth slots) (slots.map fun _ => none) cs
  let values ← (slots.zip found).mapM settle
  let ((), cs) ← close '\x7D' cs
  return (values, cs)

def arrayValues (size depth : Nat) : List Slot → Bool → JsonReader (List Json)
  | [], _, cs => .ok ([], cs)
  | slot :: slots, first, cs => do
    let (more, cs) ← hasItem first cs
    if more then
      let (x, cs) ← shaped size depth slot.shape cs
      let (xs, cs) ← arrayValues size depth slots false cs
      return (x :: xs, cs)
    else if slot.mayEnd then
      let (xs, cs) ← arrayValues size depth slots first cs
      return (.null :: xs, cs)
    else throw .mismatched

def arrayRecord (size depth : Nat) (slots : List Slot) : JsonReader (List Json) := fun cs => do
  let (values, cs) ← arrayValues size depth slots true cs
  let ((), cs) ← close ']' cs
  return (values, cs)

def record (slots : List Slot) : JsonReader (List Json) := fun cs =>
  match skipBlanks cs with
  | [] => .error .unfinished
  | '\x7B' :: rest => objectRecord cs.length (nestingLimit - 1) slots rest
  | '[' :: rest => arrayRecord cs.length (nestingLimit - 1) slots rest
  | cs => .error (mismatch cs)

end JsonReader

end ProxyCheck
