import ProxyCheck.CommandLine.Flag
import ProxyCheck.Text.Plain

/-!
What the user is told who asks for no probe.
-/
namespace ProxyCheck

namespace CommandLine

def programName : String :=
  "proxyprobe"

def versionText : String :=
  "Ver:0.1.0"

/-- The name of a program in messages: the last part of the path that it was called by. -/
def calledName (path : String) : String :=
  match (path.splitOn "/").filter (fun part => part ≠ "" && part ≠ ".") |>.getLast? with
  | some name => if name = ".." then programName else name
  | none => programName

def describe : Flag → String
  | .proxy =>
    "Proxy address: host:port or scheme://[user:pass@]host:port " ++
      "(http, https, socks4, socks4a, socks5, socks5h)"
  | .target => "URL fetched through the proxy; should answer with the caller's IP"
  | .verbose => "Print status, timing and headers to stderr"
  | .help => "Print help"
  | .version => "Print version"

def default? : Flag → Option String
  | .proxy => some ({} : Options).proxy
  | .target => some ({} : Options).target
  | _ => none

def flagColumn (f : Flag) : String :=
  "  -" ++ String.ofList [f.short] ++ ", " ++ f.text

def columnWidth : Nat :=
  (Flag.all.map fun f => (flagColumn f).length).foldl max 0 + 2

def helpLine (f : Flag) : String :=
  let column := flagColumn f
  column ++ String.ofList (List.replicate (columnWidth - column.length) ' ') ++ describe f ++
    ((default? f).elim "" fun value => " [default: " ++ value ++ "]") ++ "\n"

def usage (program : String) (used : List Flag) : String :=
  let flags := if used.isEmpty then ["[OPTIONS]"] else used.eraseDups.map Flag.text
  "Usage: " ++ " ".intercalate (plainText program :: flags)

def helpText (program : String) : String :=
  "Check that a local proxy forwards traffic by fetching one URL through it\n\n" ++
    usage program [] ++ "\n\nOptions:\n" ++ String.join (Flag.all.map helpLine)

end CommandLine

namespace Refusal

open CommandLine

def reason : Refusal → String
  | .help | .version => ""
  | .unknown argument .. => "unexpected argument '" ++ plainText argument ++ "' found"
  | .missingValue f => "a value is required for '" ++ f.text ++ "' but none was supplied"
  | .repeated f => "the argument '" ++ f.text ++ "' cannot be used multiple times"
  | .surplusValue value f _ =>
    "unexpected value '" ++ plainText value ++ "' for '" ++ f.text ++
      "' found; no more were expected"

def tip : Refusal → List String
  | .unknown _ (some f) _ => ["  tip: a similar argument exists: '--" ++ f.long ++ "'"]
  | _ => []

def usageLine (program : String) : Refusal → List String
  | .unknown _ _ used | .surplusValue _ _ used => [usage program used]
  | .repeated _ => [usage program []]
  | _ => []

def message (program : String) : Refusal → String
  | .help => helpText program
  | .version => programName ++ " " ++ versionText ++ "\n"
  | refusal =>
    "\n\n".intercalate
      (["error: " ++ refusal.reason] ++ refusal.tip ++ refusal.usageLine program ++
        ["For more information, try '--help'."]) ++ "\n"

def exitCode : Refusal → Nat
  | .help | .version => 0
  | _ => 2

end Refusal

end ProxyCheck
