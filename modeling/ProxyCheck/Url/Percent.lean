import ProxyCheck.Text.Hex
import ProxyCheck.Text.Utf8

/-!
Percent-encoding. Each part of a URL has its own set of ASCII characters that may not stand in it;
characters outside ASCII never may.
-/
namespace ProxyCheck.Percent

/-- The ASCII characters that a part of a URL has in encoded form only. -/
abbrev EncodeSet := Char → Bool

def control : EncodeSet := fun c =>
  c.toNat < 0x20 || c.toNat == 0x7F

def fragment : EncodeSet := fun c =>
  control c || " \"<>`".toList.contains c

def path : EncodeSet := fun c =>
  fragment c || "#?\x7B\x7D".toList.contains c

def userinfo : EncodeSet := fun c =>
  path c || "/:;=@[\\]^|".toList.contains c

def query : EncodeSet := fun c =>
  control c || " \"#<>".toList.contains c

def specialQuery : EncodeSet := fun c =>
  query c || c == '\''

def encodeByte (b : UInt8) : List Char :=
  ['%', hexDigitUpper (b.toNat / 16), hexDigitUpper (b.toNat % 16)]

def keeps (set : EncodeSet) (c : Char) : Bool :=
  c.toNat < 0x80 && !set c

def encodeChar (set : EncodeSet) (c : Char) : List Char :=
  if keeps set c then [c] else (String.utf8EncodeChar c).flatMap encodeByte

def encode (set : EncodeSet) (text : List Char) : List Char :=
  text.flatMap (encodeChar set)

/-- The bytes of a text, each percent sign with two hexadecimal digits after it read as one. -/
def decode : List Char → List UInt8
  | '%' :: a :: b :: rest =>
    match hexValue? a, hexValue? b with
    | some high, some low => UInt8.ofNat (high * 16 + low) :: decode rest
    | _, _ => String.utf8EncodeChar '%' ++ decode (a :: b :: rest)
  | c :: rest => String.utf8EncodeChar c ++ decode rest
  | [] => []

@[simp] theorem encode_nil (set : EncodeSet) : encode set [] = [] := rfl

@[simp] theorem encode_cons (set : EncodeSet) (c : Char) (text : List Char) :
    encode set (c :: text) = encodeChar set c ++ encode set text := rfl

end ProxyCheck.Percent
