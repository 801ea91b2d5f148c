import ProxyCheck.Probe.Request

/-!
The flags of the command line, and what a command line asks for.
-/
namespace ProxyCheck

inductive Flag where
  | proxy
  | target
  | verbose
  | help
  | version
  deriving DecidableEq, Repr

namespace Flag

def all : List Flag :=
  [.proxy, .target, .verbose, .help, .version]

def long : Flag → String
  | .proxy => "proxy"
  | .target => "target"
  | .verbose => "verbose"
  | .help => "help"
  | .version => "version"

def short : Flag → Char
  | .proxy => 'p'
  | .target => 't'
  | .verbose => 'v'
  | .help => 'h'
  | .version => 'V'

def value? : Flag → Option String
  | .proxy => some "PROXY"
  | .target => some "TARGET"
  | _ => none

def takesValue (f : Flag) : Bool :=
  f.value?.isSome

def text (f : Flag) : String :=
  "--" ++ f.long ++ f.value?.elim "" fun name => " <" ++ name ++ ">"

def ofLong? (name : String) : Option Flag :=
  all.find? (·.long = name)

def ofShort? (c : Char) : Option Flag :=
  all.find? (·.short = c)

theorem ofLong?_long (f : Flag) : ofLong? f.long = some f := by
  cases f <;> decide

theorem ofShort?_short (f : Flag) : ofShort? f.short = some f := by
  cases f <;> decide

end Flag

structure Invocation where
  options : Options := {}
  verbose : Bool := false
  deriving DecidableEq, Repr

inductive Refusal where
  | help
  | version
  /-- `used` are the flags of a command line that may have been meant. -/
  | unknown (argument : String) (similar : Option Flag) (used : List Flag)
  | missingValue (flag : Flag)
  | repeated (flag : Flag)
  | surplusValue (value : String) (flag : Flag) (used : List Flag)
  deriving DecidableEq, Repr

end ProxyCheck
