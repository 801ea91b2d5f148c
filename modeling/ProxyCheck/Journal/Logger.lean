import ProxyCheck.Journal.Append
import ProxyCheck.Journal.Note
import ProxyCheck.Text.Blank
import ProxyCheck.Text.Hex

/-!
The log of a session. It is kept only where the user has asked for it, and nothing that goes wrong
with it is of any consequence.
-/
namespace ProxyCheck

def logVariable : String :=
  "PROXYPROBE_DEBUG"

def logFolder : String :=
  ".proxyprobe"

/-- Whether the value of the variable asks for the log. No word here has a letter that is lower
case of one outside ASCII. -/
def asksForLog (value : Option String) : Bool :=
  value.any fun v =>
    ["true", "1", "yes", "on"].contains
      (String.ofList ((trimBoth isBlank v.toList).map Char.toLower))

/-- The name of a session: eight hexadecimal digits of random bytes. -/
def sessionName (random : List UInt8) : String :=
  String.ofList ((random.take 4).flatMap hexByte)

structure Logger where
  enabled : Bool
  session : String
  deriving DecidableEq, Repr

inductive LogHome where
  | missing
  /-- Something that is no directory. -/
  | blocked
  | directory (d : Directory)

structure Machine where
  switch : Option String
  home : LogHome

namespace LogHome

def prepare : LogHome → LogHome
  | .missing => .directory {}
  | home => home

def append (home : LogHome) (clock : Clock) (line : String) : LogHome :=
  match home with
  | .directory d => .directory (d.append clock line)
  | home => home

end LogHome

namespace Logger

def note (l : Logger) (clock : Clock) (home : LogHome) (n : Note) : LogHome :=
  if l.enabled then home.append clock (n.entry l.session clock.timestamp).line else home

def noteAll (l : Logger) (clocks : Nat → Clock) (home : LogHome) (notes : List Note) : LogHome :=
  notes.zipIdx.foldl (fun home (n, i) => l.note (clocks i) home n) home

end Logger

/-- A logger that keeps a log makes the directory for it. -/
def Machine.openLogger (m : Machine) (session : String) : Logger × Machine :=
  let enabled := asksForLog m.switch
  (⟨enabled, session⟩, if enabled then { m with home := m.home.prepare } else m)

end ProxyCheck
