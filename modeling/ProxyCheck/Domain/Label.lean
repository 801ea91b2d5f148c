import ProxyCheck.Unicode.Property
import ProxyCheck.Domain.Mapping
import ProxyCheck.Domain.Punycode

/-!
One label of a domain name: its Unicode form, its ASCII form, and the rules on joiners and writing
direction.
-/
namespace ProxyCheck.Domain

def isAscii (c : Char) : Bool :=
  c.toNat < 0x80

def encodedMark : List Char :=
  ['x', 'n', '-', '-']

structure Label where
  unicode : List Char
  ascii : List Char
  deriving DecidableEq, Repr

def zeroWidthNonJoiner : Char := '\u200C'
def zeroWidthJoiner : Char := '\u200D'

def joinsAfter (types : List Unicode.JoiningType) (after : List Char) : Bool :=
  match after.map Unicode.joiningType |>.dropWhile (· == .transparent) with
  | [] => false
  | t :: _ => types.contains t

/-- A joiner follows a virama; the non-joiner may also stand between two letters that would join.
`before` is written backwards. -/
def joinersFit (before : List Char) : List Char → Bool
  | [] => true
  | c :: after =>
    let afterVirama := match before with
      | [] => false
      | b :: _ => Unicode.isVirama b
    let fits :=
      if c == zeroWidthJoiner then afterVirama
      else if c == zeroWidthNonJoiner then
        afterVirama ||
          (joinsAfter [.left, .dual] before && joinsAfter [.right, .dual] after)
      else true
    fits && joinersFit (c :: before) after

/-- The longest label, in characters, that is encoded and the longest encoding that is read. -/
def longestEncoded : Nat := 1000
def longestEncoding : Nat := 2000

def Label.wellFormed (text : List Char) : Bool :=
  (text.head?.all fun c => !Unicode.isMark c) && joinersFit [] text &&
    text.length ≤ longestEncoded

def decodeLabel (cs : List Char) : Option (List Char) := do
  guard (!cs.isEmpty && cs.getLast? != some '-' && cs.length ≤ longestEncoding)
  let text ← Punycode.decode cs
  guard (isSettled text && Label.wellFormed text)
  return text

def Label.ofMapped (text : List Char) : Option Label :=
  if text.all isAscii then
    if encodedMark.isPrefixOf text then
      (decodeLabel (text.drop encodedMark.length)).map fun unicode => ⟨unicode, text⟩
    else some ⟨text, text⟩
  else if encodedMark.isPrefixOf text || !Label.wellFormed text then none
  else some ⟨text, encodedMark ++ Punycode.encode text⟩

open Unicode (BidiClass bidiClass)

def isRightToLeft (c : Char) : Bool :=
  match bidiClass c with
  | .rightToLeft | .arabicLetter | .arabicNumber => true
  | _ => false

def neutralClasses : List BidiClass :=
  [.europeanNumber, .europeanSeparator, .commonSeparator, .europeanTerminator, .otherNeutral,
    .boundaryNeutral, .nonspacingMark]

/-- A label of a name that has right-to-left characters runs in one direction: it starts with a
letter of that direction, ends with such a letter or a number, marks apart, and holds no letter of
the other; Arabic and European numbers do not meet. -/
def Label.oneDirection (label : Label) : Bool :=
  let classes := label.unicode.map bidiClass
  let last := (classes.reverse.dropWhile (· == .nonspacingMark)).head?
  match classes, last with
  | .leftToRight :: _, some last =>
    classes.all (fun b => b == .leftToRight || neutralClasses.contains b) &&
      (last == .leftToRight || last == .europeanNumber)
  | first :: _, some last =>
    (first == .rightToLeft || first == .arabicLetter) &&
      classes.all (fun b => b == .rightToLeft || b == .arabicLetter || b == .arabicNumber ||
        neutralClasses.contains b) &&
      (last == .rightToLeft || last == .arabicLetter || last == .arabicNumber ||
        last == .europeanNumber) &&
      !(classes.contains .arabicNumber && classes.contains .europeanNumber)
  | _ :: _, none => false
  | [], _ => true

end ProxyCheck.Domain
