import ProxyCheck.Json.Basic
import ProxyCheck.Number.Shortest

/-!
JSON values as text, without blanks. Only what may not stand in a string is escaped there, so the
text has no line break.
-/
namespace ProxyCheck

namespace Decimal

def digitText (d : Decimal) : List Char :=
  (toString d.digits).toList

def pointPlace (d : Decimal) : Int :=
  d.digitText.length + d.exponent

def zeros (n : Nat) : List Char :=
  List.replicate n '0'

/-- A text of a positive number with a point or an exponent in it. Powers of ten from 10^-5 up to
10^16 are written without exponent. -/
def text (d : Decimal) : List Char :=
  let digits := d.digitText
  let place := d.pointPlace
  if d.digits = 0 then "0.0".toList
  else if 0 ≤ d.exponent ∧ place ≤ 16 then digits ++ zeros d.exponent.toNat ++ ".0".toList
  else if 0 < place ∧ place ≤ 16 then digits.take place.toNat ++ '.' :: digits.drop place.toNat
  else if -5 < place ∧ place ≤ 0 then "0.".toList ++ zeros (-place).toNat ++ digits
  else
    let fraction := digits.drop 1
    digits.take 1 ++ (if fraction.isEmpty then [] else '.' :: fraction) ++
      'e' :: (toString (place - 1)).toList

end Decimal

namespace JsonNumber

def text : JsonNumber → List Char
  | .whole n => (toString n).toList
  | .binary x => (if x.negative then ['-'] else []) ++ (Decimal.shortest x).text

end JsonNumber

namespace Json

def shortEscape? (c : Char) : Option Char :=
  match c with
  | '"' => some '"'
  | '\\' => some '\\'
  | '\x08' => some 'b'
  | '\t' => some 't'
  | '\n' => some 'n'
  | '\x0c' => some 'f'
  | '\r' => some 'r'
  | _ => none

def escapeChar (c : Char) : List Char :=
  match shortEscape? c with
  | some letter => ['\\', letter]
  | none =>
    if c.toNat < 0x20 then "\\u00".toList ++ [hexDigit (c.toNat / 16), hexDigit (c.toNat % 16)]
    else [c]

def quote (text : String) : List Char :=
  '"' :: text.toList.flatMap escapeChar ++ ['"']

def separated : List (List Char) → List Char
  | [] => []
  | [item] => item
  | item :: rest => item ++ ',' :: separated rest

mutual

def chars : Json → List Char
  | .null => "null".toList
  | .bool b => (if b then "true" else "false").toList
  | .number n => n.text
  | .string text => quote text
  | .array items => '[' :: separated (itemChars items) ++ [']']
  | .object members => '\x7B' :: separated (memberChars members) ++ ['\x7D']

def itemChars : List Json → List (List Char)
  | [] => []
  | item :: rest => item.chars :: itemChars rest

def memberChars : List (String × Json) → List (List Char)
  | [] => []
  | (key, value) :: rest => (quote key ++ ':' :: value.chars) :: memberChars rest

end

def text (j : Json) : String :=
  String.ofList j.chars

end Json

end ProxyCheck
