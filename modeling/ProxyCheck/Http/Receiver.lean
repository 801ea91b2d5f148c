import ProxyCheck.Http.Client

/-!
Receiving a response, byte by byte. How long the body is follows from its header fields, or else
from the end of the connection.
-/
namespace ProxyCheck.Http

inductive Phase where
  | statusLine
  | fields
  /-- A body of which so many bytes are still to come. -/
  | counted (left : Nat)
  | chunkSize
  | chunk (left : Nat)
  | chunkEnd
  | trailer
  | untilClose
  | complete
  | broken
  deriving DecidableEq, Repr

structure Receiver where
  phase : Phase := .statusLine
  /-- The line that is being read, last byte first. -/
  line : List UInt8 := []
  status : UInt16 := 0
  /-- The fields so far, last one first. -/
  fields : List Field := []
  body : ByteArray := .empty

namespace Receiver

def asText (bytes : List UInt8) : List Char :=
  bytes.map fun b => Char.ofNat b.toNat

def isPad (b : UInt8) : Bool :=
  b == 0x20 || b == 0x09

def lineFeed : UInt8 := 10

def carriageReturn : UInt8 := 13

def statusOf? (line : List UInt8) : Option UInt16 :=
  let text := asText line
  let rest := (text.dropWhile (· ≠ ' ')).drop 1
  let digits := rest.take 3
  let after := rest.drop 3
  if "HTTP/".toList.isPrefixOf text && digits.length == 3 && digits.all Char.isDigit &&
      after.head?.all (· == ' ') then
    some (UInt16.ofNat (digitsValue 10 digits))
  else none

/-- A name, a colon and a value; blanks around the value are no part of it. -/
def fieldOf? (line : List UInt8) : Option Field :=
  let colon : UInt8 := 58
  match line.dropWhile (· ≠ colon) with
  | _ :: value => some (String.ofList (asText (line.takeWhile (· ≠ colon))), trimBoth isPad value)
  | [] => none

def values (r : Receiver) (name : String) : List String :=
  r.fields.filterMap fun f => if lowerName f.1 = name then readable? f.2 else none

def isChunked (r : Receiver) : Bool :=
  (r.values "transfer-encoding").any fun v => lowerName v = "chunked"

def length? (r : Receiver) : Option Nat :=
  match r.values "content-length" with
  | v :: _ => if v.toList.all Char.isDigit then some (digitsValue 10 v.toList) else none
  | [] => none

def hasNoBody (r : Receiver) : Bool :=
  r.status == 204 || r.status == 304

def startBody (r : Receiver) : Receiver :=
  if 100 ≤ r.status && r.status < 200 then { phase := .statusLine }
  else
    let phase :=
      if r.hasNoBody then .complete
      else if r.isChunked then .chunkSize
      else
        match r.length? with
        | some 0 => .complete
        | some n => .counted n
        | none => .untilClose
    { r with phase }

def chunkStart (line : List UInt8) : Phase :=
  let digits := (asText line).takeWhile isHex
  if digits.isEmpty then .broken
  else
    match digitsValue 16 digits with
    | 0 => .trailer
    | n => .chunk n

def takeLine (r : Receiver) (line : List UInt8) : Receiver :=
  match r.phase with
  | .statusLine =>
    match statusOf? line with
    | some status => { r with phase := .fields, status }
    | none => { r with phase := .broken }
  | .fields =>
    if line.isEmpty then r.startBody
    else
      match fieldOf? line with
      | some f => { r with fields := f :: r.fields }
      | none => { r with phase := .broken }
  | .chunkSize => { r with phase := chunkStart line }
  | .chunkEnd => { r with phase := if line.isEmpty then .chunkSize else .broken }
  | .trailer => if line.isEmpty then { r with phase := .complete } else r
  | _ => r

def withoutReturn (line : List UInt8) : List UInt8 :=
  match line with
  | b :: rest => if b = carriageReturn then rest else line
  | [] => []

def push (r : Receiver) (b : UInt8) : Receiver :=
  { r with body := r.body.push b }

def receive (r : Receiver) (b : UInt8) : Receiver :=
  match r.phase with
  | .complete | .broken => r
  | .untilClose => r.push b
  | .counted n => { r.push b with phase := if n ≤ 1 then .complete else .counted (n - 1) }
  | .chunk n => { r.push b with phase := if n ≤ 1 then .chunkEnd else .chunk (n - 1) }
  | _ =>
    if b = lineFeed then { r with line := [] }.takeLine (withoutReturn r.line).reverse
    else { r with line := b :: r.line }

def receiveAll (r : Receiver) (bytes : ByteArray) : Receiver :=
  bytes.foldl receive r

def isDone (r : Receiver) : Bool :=
  r.phase == .complete || r.phase == .broken

def reply (r : Receiver) (duration : Duration) : Except Failure Reply :=
  match r.phase with
  | .complete | .untilClose => .ok ⟨r.status, r.fields.reverse, r.body.toList, duration⟩
  | .statusLine | .fields | .broken => .error (.exchange .protocol)
  | .counted _ | .chunkSize | .chunk _ | .chunkEnd | .trailer =>
    .error (.body false Trouble.other.text)

theorem receive_of_isDone (r : Receiver) (b : UInt8) (done : r.isDone) : r.receive b = r := by
  simp only [isDone, Bool.or_eq_true, beq_iff_eq] at done
  rcases done with h | h <;> simp [receive, h]

example :
    let r := ({} : Receiver).receiveAll
      "HTTP/1.1 200 OK\r\nTransfer-Encoding: chunked\r\n\r\n3\r\nabc\r\n4\r\ndefg\r\n0\r\n\r\n".toUTF8
    r.phase = .complete ∧ r.status = 200 ∧ r.body = "abcdefg".toUTF8 := by decide +kernel

end Receiver

end ProxyCheck.Http
