/-!
Bytes in a packed form that every unpacker reads: they stand in blocks as they are, followed by a
checksum and by their number.
-/
namespace ProxyCheck.Gzip

def polynomial : UInt32 := 0xEDB88320

def shift (c : UInt32) : UInt32 :=
  if c &&& 1 = 1 then (c >>> 1) ^^^ polynomial else c >>> 1

def shiftByte (c : UInt32) : UInt32 :=
  shift (shift (shift (shift (shift (shift (shift (shift c)))))))

def allOnes : UInt32 := 0xFFFFFFFF

def checksum (bytes : ByteArray) : UInt32 :=
  bytes.foldl (fun c b => shiftByte (c ^^^ b.toUInt32)) allOnes ^^^ allOnes

def littleEndian (width n : Nat) : List UInt8 :=
  (List.range width).map fun i => UInt8.ofNat (n >>> (8 * i))

def blockLimit : Nat := 65535

def blockHead (isLast : Bool) (size : Nat) : List UInt8 :=
  (if isLast then 1 else 0) :: littleEndian 2 size ++ littleEndian 2 (blockLimit - size)

def block (bytes : ByteArray) (i : Nat) : ByteArray :=
  let content := bytes.extract (i * blockLimit) ((i + 1) * blockLimit)
  ⟨(blockHead (i == bytes.size / blockLimit) content.size).toArray⟩ ++ content

def head : List UInt8 :=
  [0x1F, 0x8B, 8, 0, 0, 0, 0, 0, 0, 255]

def pack (bytes : ByteArray) : ByteArray :=
  let blocks := (List.range (bytes.size / blockLimit + 1)).map (block bytes)
  let tail := littleEndian 4 (checksum bytes).toNat ++ littleEndian 4 bytes.size
  blocks.foldl (· ++ ·) ⟨head.toArray⟩ ++ ⟨tail.toArray⟩

example : checksum ⟨#[0x61]⟩ = 0xE8B7BE43 := by decide +kernel

example : (pack ⟨#[0x61]⟩).data =
    #[0x1F, 0x8B, 8, 0, 0, 0, 0, 0, 0, 255, 1, 1, 0, 0xFE, 0xFF, 0x61, 0x43, 0xBE, 0xB7, 0xE8,
      1, 0, 0, 0] := by decide +kernel

end ProxyCheck.Gzip
