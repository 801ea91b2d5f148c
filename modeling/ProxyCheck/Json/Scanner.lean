import ProxyCheck.Json.Basic
import ProxyCheck.Text.Utf8

/-!
The words, strings and numbers of JSON, read from the front of a text. A fault says which of three
things went wrong first.
-/
namespace ProxyCheck

inductive JsonFault where
  /-- No JSON text goes on like this. -/
  | malformed
  /-- The text ends where more has to follow. -/
  | unfinished
  /-- JSON, but not of the shape that was asked for. -/
  | mismatched
  deriving DecidableEq, Repr

abbrev JsonReader (α : Type) := List Char → Except JsonFault (α × List Char)

namespace JsonReader

def isBlank (c : Char) : Bool :=
  c == ' ' || c == '\n' || c == '\t' || c == '\r'

def skipBlanks (cs : List Char) : List Char :=
  cs.dropWhile isBlank

def word : List Char → JsonReader Unit
  | [], cs => .ok ((), cs)
  | _ :: _, [] => .error .unfinished
  | letter :: letters, c :: cs => if c = letter then word letters cs else .error .malformed

/-- The number that four hexadecimal digits spell. Anything else is malformed, unless the text has
fewer than four bytes left. -/
def hexUnit (cs : List Char) : Except JsonFault Nat :=
  let front := cs.take 4
  if front.length = 4 ∧ front.all isHex then .ok (digitsValue 16 front)
  else if (Utf8.encode front).length < 4 then .error .unfinished
  else .error .malformed

def escaped? (c : Char) : Option Char :=
  match c with
  | '"' => some '"'
  | '\\' => some '\\'
  | '/' => some '/'
  | 'b' => some '\x08'
  | 'f' => some '\x0c'
  | 'n' => some '\n'
  | 'r' => some '\r'
  | 't' => some '\t'
  | _ => none

def unicodeEscape (cs : List Char) : Except JsonFault (Char × Nat) := do
  let high ← hexUnit cs
  if 0xDC00 ≤ high ∧ high ≤ 0xDFFF then throw .malformed
  if high < 0xD800 ∨ 0xDBFF < high then return (Char.ofNat high, 4)
  match cs.drop 4 with
  | [] | ['\\'] => throw .unfinished
  | '\\' :: 'u' :: rest =>
    let low ← hexUnit rest
    if low < 0xDC00 ∨ 0xDFFF < low then throw .malformed
    return (Char.ofNat (0x10000 + (high - 0xD800) * 0x400 + (low - 0xDC00)), 10)
  | _ => throw .malformed

def prepend (c : Char) (read : Except JsonFault (List Char × List Char)) :
    Except JsonFault (List Char × List Char) :=
  read.map fun (text, rest) => (c :: text, rest)

def stringChars : JsonReader (List Char)
  | [] => .error .unfinished
  | '"' :: rest => .ok ([], rest)
  | ['\\'] => .error .unfinished
  | '\\' :: 'u' :: rest =>
    match unicodeEscape rest with
    | .ok (c, n) => prepend c (stringChars (rest.drop n))
    | .error fault => .error fault
  | '\\' :: letter :: rest =>
    match escaped? letter with
    | some c => prepend c (stringChars rest)
    | none => .error .malformed
  | c :: rest => if c.toNat < 0x20 then .error .malformed else prepend c (stringChars rest)
  termination_by cs => cs.length

def string : JsonReader String := fun cs => do
  let (text, rest) ← stringChars cs
  return (String.ofList text, rest)

/-- Passes over a string. Its escapes need not make characters. -/
def skipString : JsonReader Unit
  | [] => .error .unfinished
  | '"' :: rest => .ok ((), rest)
  | ['\\'] => .error .unfinished
  | '\\' :: 'u' :: rest =>
    match hexUnit rest with
    | .ok _ => skipString (rest.drop 4)
    | .error fault => .error fault
  | '\\' :: letter :: rest =>
    if (escaped? letter).isSome then skipString rest else .error .malformed
  | c :: rest => if c.toNat < 0x20 then .error .malformed else skipString rest
  termination_by cs => cs.length

def startsWithDigit (cs : List Char) : Bool :=
  cs.head?.any Char.isDigit

def digit (c : Char) : Nat :=
  (hexValue? c).getD 0

/-- Takes up digits as long as the number fits 64 bits: the number, how many digits were taken, and
the rest. -/
def absorb (n : Nat) : List Char → Nat × Nat × List Char
  | [] => (n, 0, [])
  | c :: cs =>
    if c.isDigit ∧ n * 10 + digit c < UInt64.size then
      let (m, taken, rest) := absorb (n * 10 + digit c) cs
      (m, taken + 1, rest)
    else (n, 0, c :: cs)

def binary (negative : Bool) (n : Nat) (e : Int) : JsonReader JsonNumber := fun cs =>
  match Binary64.ofDecimal? negative n e with
  | some x => .ok (.binary x, cs)
  | none => .error .malformed

def exponentDigits (sign : Int) : JsonReader Int := fun cs =>
  match cs with
  | [] => .error .unfinished
  | _ :: _ =>
    if startsWithDigit cs then
      .ok (sign * digitsValue 10 (cs.takeWhile Char.isDigit), cs.dropWhile Char.isDigit)
    else .error .malformed

def exponent : JsonReader Int
  | '+' :: rest => exponentDigits 1 rest
  | '-' :: rest => exponentDigits (-1) rest
  | cs => exponentDigits 1 cs

def isExponentMark (c : Char) : Bool :=
  c == 'e' || c == 'E'

def scientific (negative : Bool) (n : Nat) (e : Int) : JsonReader JsonNumber
  | [] => binary negative n e []
  | c :: rest =>
    if isExponentMark c then do
      let (k, rest) ← exponent rest
      binary negative n (e + k) rest
    else binary negative n e (c :: rest)

/-- A number from its point on. Digits that do not fit are dropped. -/
def fraction (negative : Bool) (n : Nat) (e : Int) : JsonReader JsonNumber := fun cs =>
  let (m, taken, rest) := absorb n cs
  if startsWithDigit rest then
    scientific negative m (e - taken) (rest.dropWhile Char.isDigit)
  else if taken = 0 then .error (if rest.isEmpty then .unfinished else .malformed)
  else scientific negative m (e - taken) rest

def greatestNegated : Nat := 9223372036854775808

def whole (negative : Bool) (n : Nat) : JsonReader JsonNumber := fun cs =>
  if !negative then .ok (.whole n, cs)
  else if 0 < n ∧ n ≤ greatestNegated then .ok (.whole (-n), cs)
  else binary negative n 0 cs

def numberTail (negative : Bool) (n : Nat) (dropped : Nat) : JsonReader JsonNumber := fun cs =>
  match cs with
  | '.' :: rest => fraction negative n dropped rest
  | cs =>
    if cs.head?.any isExponentMark || 0 < dropped then scientific negative n dropped cs
    else whole negative n cs

def number (negative : Bool) : JsonReader JsonNumber
  | [] => .error .unfinished
  | '0' :: rest => if startsWithDigit rest then .error .malformed else numberTail negative 0 0 rest
  | c :: rest =>
    if c.isDigit then
      let (n, _, rest) := absorb 0 (c :: rest)
      numberTail negative n (rest.takeWhile Char.isDigit).length (rest.dropWhile Char.isDigit)
    else .error .malformed

def signedNumber : JsonReader JsonNumber
  | '-' :: rest => number true rest
  | cs => number false cs

def skipDigits : JsonReader Unit := fun cs =>
  if startsWithDigit cs then .ok ((), cs.dropWhile Char.isDigit) else .error .malformed

def skipExponent (cs : List Char) : Except JsonFault (Unit × List Char) :=
  match cs with
  | c :: rest =>
    if isExponentMark c then
      skipDigits (if rest.head?.any (fun c => c == '+' || c == '-') then rest.drop 1 else rest)
    else .ok ((), cs)
  | [] => .ok ((), [])

/-- Passes over a number after its sign. One that breaks off is malformed. -/
def skipNumber : JsonReader Unit := fun cs => do
  let ((), rest) ← match cs with
    | '0' :: rest => if startsWithDigit rest then .error .malformed else .ok ((), rest)
    | cs => skipDigits cs
  match rest with
  | '.' :: rest => do
    let ((), rest) ← skipDigits rest
    skipExponent rest
  | rest => skipExponent rest

end JsonReader

end ProxyCheck
