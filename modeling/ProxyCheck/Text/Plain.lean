/-!
Text for terminals without what only a terminal understands: escape sequences and control
characters. Blanks and line breaks stay.
-/
namespace ProxyCheck.Plain

inductive Place where
  | outside
  | escape
  /-- After an escape and marks between 0x20 and 0x2F. -/
  | marked
  | control
  /-- A sequence that goes on up to a bell. -/
  | command
  /-- A sequence that only another escape ends. -/
  | opaqueText
  deriving DecidableEq, Repr

def isControl (n : Nat) : Bool :=
  n < 0x20 || n == 0x7F

def isLayout (c : Char) : Bool :=
  c == '\t' || c == '\n' || c == '\x0c' || c == '\r'

def afterEscape (c : Char) : Place :=
  let n := c.toNat
  if n < 0x30 then .marked
  else if c = '[' then .control
  else if c = ']' then .command
  else if c = 'P' ∨ c = 'X' ∨ c = '^' ∨ c = '_' then .opaqueText
  else .outside

def next (place : Place) (c : Char) : Place :=
  let n := c.toNat
  if 0x80 ≤ n then .outside
  else
    match place with
    | .outside => .outside
    | .escape => afterEscape c
    | .marked => if n < 0x30 then .marked else .outside
    | .control => if n < 0x40 then .control else .outside
    | .command => .command
    | .opaqueText => .opaqueText

/-- Whether a blank among the controls is kept. It breaks off a sequence that is not quoted text. -/
def breaksOff : Place → Bool
  | .command | .opaqueText => false
  | _ => true

def strip (place : Place) : List Char → List Char
  | [] => []
  | c :: rest =>
    if c = '\x1b' then strip .escape rest
    else if c = '\x18' ∨ c = '\x1a' then strip .outside rest
    else if c = '\x07' ∧ place = .command then strip .outside rest
    else if isControl c.toNat then
      if isLayout c && breaksOff place then c :: strip .outside rest else strip place rest
    else if place = .outside then c :: strip .outside rest
    else strip (next place c) rest

end Plain

def plainText (text : String) : String :=
  String.ofList (Plain.strip .outside text.toList)

end ProxyCheck
