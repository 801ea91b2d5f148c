import ProxyCheck.Http.Receiver
import ProxyCheck.Http.RequestHead
import ProxyCheck.Http.Route
import ProxyCheck.Journal.Folder
import ProxyCheck.Journal.Gzip
import ProxyCheck.Program
import Std.Async.DNS
import Std.Async.TCP
import Std.Async.Timer
import Std.Time

/-!
The program at work: clock, log and network. What is written, kept and sent is decided elsewhere.
-/
namespace ProxyCheck.Main

open Std.Async Http

def readTimestamp : IO String := do
  return (← Std.Time.DateTime.now).format "uuuu-MM-dd'T'HH:mm:ss.SSSSSSSSSxxx"

def readClock : IO Clock := do
  let stamp := (← Std.Time.DateTime.now).format "uuuuMMdd'_'HHmmss"
  return { now := ← IO.monoNanosNow, stamp, timestamp := ← readTimestamp }

/-- What fails here is of no consequence. -/
def attempt (action : IO Unit) : IO Unit :=
  try action catch _ => return ()

def succeeds (action : IO Unit) : IO Bool :=
  try
    action
    return true
  catch _ => return false

def isOversized (log : String) : IO Bool :=
  try
    return logLimit ≤ (← (← IO.FS.realPath log).metadata).byteSize.toNat
  catch _ => return false

def listing (folder : String) : IO (NamedPairs Nat) := do
  let entries ← (← IO.FS.realPath folder).readDir
  entries.toList.mapM fun entry => do
    let modified := (← entry.path.symlinkMetadata).modified
    return (entry.fileName, modified.sec.toNat * 1000000000 + modified.nsec.toNat)

def prune (folder : String) : IO Unit := do
  for (name, _) in surplusOf logStem id (← listing folder) do
    attempt (IO.FS.removeFile (folder ++ "/" ++ name))

def freeArchiveName (folder stamp : String) : IO String := do
  let names ← try pure ((← listing folder).map Prod.fst) catch _ => pure []
  let name := archiveName logStem stamp
  return name (freeNumber (fun n => names.contains (name n)) names.length 0)

abbrev FileWork := StateT (Array IO.FS.Handle) IO

def openAs (mode : IO.FS.Mode) (path : String) : FileWork (Option Nat) := do
  try
    let file ← IO.FS.Handle.mk path mode
    modifyGet fun files => (some files.size, files.push file)
  catch _ => return none

def onFile (id : Nat) (action : IO.FS.Handle → IO Bool) : FileWork Bool := do
  match (← get)[id]? with
  | some file => try action file catch _ => return false
  | none => return false

def packInto (source : String) (archive : IO.FS.Handle) : IO Bool := do
  let content ← try pure (some (← IO.FS.readBinFile source)) catch _ => pure none
  archive.write (Gzip.pack (content.getD .empty))
  archive.flush
  return content.isSome

def folderAt (path : String) : Folder FileWork where
  isOversized := isOversized (path ++ "/" ++ logName)
  freeArchiveName stamp := freeArchiveName path stamp
  openFile name := openAs .append (path ++ "/" ++ name)
  createFile name := openAs .write (path ++ "/" ++ name)
  lock id := onFile id fun file => file.tryLock
  unlock id := discard (onFile id fun file => succeeds file.unlock)
  rename old new := succeeds (IO.FS.rename (path ++ "/" ++ old) (path ++ "/" ++ new))
  pack source archive := onFile archive (packInto (path ++ "/" ++ source))
  removeFile name := succeeds (IO.FS.removeFile (path ++ "/" ++ name))
  prune := attempt (prune path)
  append id bytes := discard (onFile id fun file => succeeds (file.write bytes))

def appendLine (folder : String) (clock : Clock) (line : String) : IO Unit :=
  discard ((Stage.measure.performAll (folderAt folder) clock.stamp (lineBytes line)
    Stage.measure.remaining).run #[])

def keep (logger : Logger) (folder : String) (notes : List Note) : IO Unit := do
  if logger.enabled then
    for n in notes do
      let clock ← readClock
      appendLine folder clock (n.entry logger.session clock.timestamp).line

def socketAddress (port : UInt16) : Std.Net.IPAddr → Std.Net.SocketAddress
  | .v4 addr => .v4 ⟨addr, port⟩
  | .v6 addr => .v6 ⟨addr, port⟩

def connectAny (port : UInt16) : List Std.Net.IPAddr → Async (Option TCP.Socket.Client)
  | [] => return none
  | address :: others => do
    try
      let socket ← TCP.Socket.Client.mk
      socket.connect (socketAddress port address)
      return some socket
    catch _ => connectAny port others

partial def receiveFrom (socket : TCP.Socket.Client) (r : Receiver) : Async Receiver := do
  if r.isDone then return r
  match ← socket.recv? 65536 with
  | some bytes => receiveFrom socket (r.receiveAll bytes)
  | none => return r

def resolve (host : String) : Async (List Std.Net.IPAddr) :=
  try
    return (← DNS.getAddrInfo host "").toList
  catch _ => return []

def exchange (proxy target : Uri) : Async (Except Failure Receiver) := do
  let route := Route.ofAddresses proxy target
  let addresses ← if route.isHidden then pure [] else resolve route.host
  if addresses.isEmpty then return .error (.exchange .nameResolution)
  match ← connectAny route.port addresses with
  | none => return .error (.exchange .connection)
  | some socket =>
    if !route.plain then return .error (.exchange .connection)
    try
      socket.send (String.ofList (getHead proxy target)).toUTF8
      return .ok (← receiveFrom socket {})
    catch _ => return .error (.exchange .protocol)

def expire (timeout : Duration) : Async (Except Failure Receiver) := do
  sleep (Std.Time.Millisecond.Offset.ofNat timeout.millis.toNat)
  return .error (.exchange .timeout)

def clientFor (request : Request) : IO Client := do
  let start ← IO.monoMsNow
  let received ← match Http.addresses request with
    | .ok (proxy, target) =>
      (Async.race (exchange proxy target) (expire request.timeout)).block
    | .error _ => pure (.error (.exchange .invalidRequest))
  let duration := Duration.ofMillis ((← IO.monoMsNow) - start)
  return Http.fetch fun _ _ _ => received.bind (·.reply duration)

def probe (options : Options) : IO Outcome := do
  let start ← IO.monoMsNow
  let logger : Logger := ⟨asksForLog (← IO.getEnv logVariable), sessionName (← IO.getRandomBytes 4).toList⟩
  let folder := (← IO.getEnv "HOME").getD "." ++ "/" ++ logFolder
  if logger.enabled then attempt (IO.FS.createDirAll folder)
  let checkedAt ← readTimestamp
  let request := (Request.ofOptions options).toOption
  let first := request.elim [] (Probe.startNotes options logger.session)
  keep logger folder first
  let client ← request.elim (pure fun _ => .error (.request "")) clientFor
  let clock ← readClock
  let elapsed := UInt64.ofNat ((← IO.monoMsNow) - start)
  let result := Probe.run options client ⟨logger.session, checkedAt, elapsed, fun _ => clock⟩
  keep logger folder (result.notes.drop first.length)
  return result.outcome

def deliver (output : Output) : IO UInt32 := do
  IO.eprint output.stderr
  IO.print output.stdout
  return UInt32.ofNat output.exitCode

end ProxyCheck.Main

open ProxyCheck in
def main (arguments : List String) : IO UInt32 := do
  match CommandLine.parse arguments with
  | .error refusal => Main.deliver (Program.refuse (← IO.appPath).toString refusal)
  | .ok invocation =>
    Main.deliver (Program.display invocation.verbose (← Main.probe invocation.options))
