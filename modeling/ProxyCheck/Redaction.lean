import ProxyCheck.Text.Blank

/-!
Secrets in running text. A pattern finds a secret at the start of a text; the patterns go over the
text one after the other, each over what those before it have left.
-/
namespace ProxyCheck.Redaction

def marker : List Char :=
  "[REDACTED]".toList

structure Finding where
  length : Nat
  replacement : List Char
  deriving DecidableEq, Repr

abbrev Pattern := List Char → Option Finding

/-- Replaces what a pattern finds, from left to right. Replaced text is not searched again. -/
def Pattern.replaceAll (pattern : Pattern) : List Char → List Char
  | [] => []
  | c :: rest =>
    match pattern (c :: rest) with
    | some found => found.replacement ++ pattern.replaceAll (rest.drop (found.length - 1))
    | none => c :: pattern.replaceAll rest
  termination_by text => text.length

/-- Both cases of a letter are one; so are the letter s and the long s, the letter k and the sign of
the kelvin. -/
def foldCase (c : Char) : Char :=
  if c = 'ſ' then 's' else if c = '\u212A' then 'k' else c.toLower

def afterWord? : List Char → List Char → Option (List Char)
  | [], text => some text
  | w :: word, c :: text => if foldCase c = w then afterWord? word text else none
  | _ :: _, [] => none

def isSeparator (c : Char) : Bool :=
  c == ':' || isBlank c

/-- The length of separators and of the value after them. Where nothing else follows, a colon is a
value too, if it is not the only separator. -/
def valueLength? (text : List Char) : Option Nat :=
  let separators := text.takeWhile isSeparator
  let value := (text.dropWhile isSeparator).takeWhile fun c => !isBlank c
  if value.isEmpty then
    let colons := dropTrailing (fun c => c ≠ ':') separators
    if 2 ≤ colons.length then some colons.length else none
  else if separators.isEmpty then none
  else some (separators.length + value.length)

def marked (keyword : List Char) : Pattern := fun text => do
  let rest ← afterWord? keyword text
  let n ← valueLength? rest
  return ⟨keyword.length + n, marker⟩

def keywords : List String :=
  ["proxy-authorization", "authorization", "bearer", "token", "password"]

def isLower (c : Char) : Bool :=
  'a' ≤ c && c ≤ 'z'

def isSchemeChar (c : Char) : Bool :=
  isLower c || c.isDigit || c == '+' || c == '.' || c == '-'

def isUserChar (c : Char) : Bool :=
  !(c == '/' || isBlank c || c == ':' || c == '@')

def isPasswordChar (c : Char) : Bool :=
  !(c == '/' || isBlank c || c == '@')

def userinfoLength? (text : List Char) : Option Nat :=
  let user := text.takeWhile isUserChar
  match text.dropWhile isUserChar with
  | ':' :: rest =>
    let password := rest.takeWhile isPasswordChar
    if !user.isEmpty && !password.isEmpty && (rest.dropWhile isPasswordChar).head? = some '@' then
      some (user.length + password.length + 2)
    else none
  | _ => none

/-- A scheme with user name and password; only the scheme stays. -/
def credentials : Pattern := fun text =>
  let scheme := text.takeWhile isSchemeChar
  if text.head?.any isLower then
    match text.dropWhile isSchemeChar with
    | ':' :: '/' :: '/' :: rest =>
      (userinfoLength? rest).map fun n =>
        ⟨scheme.length + 3 + n, scheme ++ "://".toList ++ marker ++ ['@']⟩
    | _ => none
  else none

def patterns : List Pattern :=
  keywords.map (fun keyword => marked keyword.toList) ++ [credentials]

def redactChars (text : List Char) : List Char :=
  patterns.foldl (fun text pattern => pattern.replaceAll text) text

end Redaction

def redact (message : String) : String :=
  String.ofList (Redaction.redactChars message.toList)

end ProxyCheck
