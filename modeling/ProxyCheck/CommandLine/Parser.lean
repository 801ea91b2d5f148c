import ProxyCheck.CommandLine.Flag
import ProxyCheck.Text.Similarity

/-!
Reading a command line. A flag with a value is not taken up before the next flag: only then is its
value known to be there.
-/
namespace ProxyCheck

namespace CommandLine

structure Progress where
  found : List (Flag × String) := []
  pending : Option (Flag × Option String) := none
  deriving DecidableEq, Repr

namespace Progress

def flags (p : Progress) : List Flag :=
  p.found.map (·.1)

def has (p : Progress) (f : Flag) : Bool :=
  p.flags.contains f

def takeUp (p : Progress) (f : Flag) (value : String) : Except Refusal Progress :=
  if p.has f then .error (.repeated f) else .ok ⟨p.found ++ [(f, value)], none⟩

def settle (p : Progress) : Except Refusal Progress :=
  match p.pending with
  | none => .ok p
  | some (f, some value) => p.takeUp f value
  | some (f, none) => .error (.missingValue f)

/-- The flags after the pending one, whatever is wrong with that. A flag that stands twice is
none. -/
def flagsSettled (p : Progress) : List Flag :=
  match p.pending with
  | some (f, some _) => if p.has f then p.flags.erase f else p.flags ++ [f]
  | _ => p.flags

def invocation (p : Progress) : Invocation :=
  let default : Options := {}
  { options :=
      { proxy := (p.found.lookup .proxy).getD default.proxy
        target := (p.found.lookup .target).getD default.target }
    verbose := p.has .verbose }

end Progress

def similarEnough : Float := 0.7

/-- The flag most like a name, of equally similar ones the last. -/
def similar? (name : String) : Option Flag :=
  let likeness (f : Flag) := Similarity.jaro name.toList f.long.toList
  Flag.all.foldl (fun best f =>
    if similarEnough < likeness f && best.all (fun b => likeness b ≤ likeness f) then some f
    else best) none

def unknownLong (p : Progress) (name : String) : Refusal :=
  let flags := p.flagsSettled
  match similar? name with
  | some f => .unknown ("--" ++ name) (some f) (if flags.contains f then flags else flags ++ [f])
  | none => .unknown ("--" ++ name) none flags

def raise (p : Progress) (f : Flag) : Except Refusal Progress := do
  let p ← p.settle
  match f with
  | .help => throw .help
  | .version => throw .version
  | f => p.takeUp f ""

def await (p : Progress) (f : Flag) (value : Option String) : Except Refusal Progress := do
  let p ← p.settle
  match value with
  | some value => p.takeUp f value
  | none => return { p with pending := some (f, none) }

def readLong (p : Progress) (text : List Char) : Except Refusal Progress :=
  let name := String.ofList (text.takeWhile (· ≠ '='))
  let value := match text.dropWhile (· ≠ '=') with
    | _ :: value => some (String.ofList value)
    | [] => none
  match Flag.ofLong? name with
  | none => .error (unknownLong p name)
  | some f =>
    if f.takesValue then await p f value
    else
      match value with
      | some value => .error (.surplusValue value f (p.flags ++ [f]))
      | none => raise p f

/-- The value that follows a letter at once; an equality sign may stand between. -/
def attached : List Char → Option String
  | [] => none
  | '=' :: value => some (String.ofList value)
  | value => some (String.ofList value)

/-- An argument after one dash: letters, the last of which may have a value. -/
def readShort (p : Progress) : List Char → Except Refusal Progress
  | [] => .ok p
  | c :: rest =>
    match Flag.ofShort? c with
    | none => .error (.unknown ("-" ++ String.ofList [c]) none [])
    | some f =>
      if f.takesValue then await p f (attached rest)
      else
        match raise p f with
        | .ok p => readShort p rest
        | .error refusal => .error refusal

/-- An argument that is no flag can only be the value of the one before it. -/
def readPlain (p : Progress) (argument : String) : Except Refusal Progress :=
  match p.pending with
  | some (f, none) => .ok { p with pending := some (f, some argument) }
  | _ => .error (.unknown argument none [])

def readArgument (p : Progress) (argument : String) : Except Refusal Progress :=
  match argument.toList with
  | '-' :: '-' :: text => readLong p text
  | '-' :: c :: letters => readShort p (c :: letters)
  | _ => readPlain p argument

def readAll (p : Progress) : List String → Except Refusal Progress
  | [] => p.settle
  | argument :: rest =>
    if argument = "--" then
      match rest with
      | [] => p.settle
      | surplus :: _ => .error (.unknown surplus none [])
    else
      match readArgument p argument with
      | .ok p => readAll p rest
      | .error refusal => .error refusal

def parse (arguments : List String) : Except Refusal Invocation :=
  (readAll {} arguments).map Progress.invocation

end CommandLine

end ProxyCheck
