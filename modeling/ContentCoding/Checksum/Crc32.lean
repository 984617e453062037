import ContentCoding.Bytes

/-!
# CRC-32

The cyclic redundancy check of gzip: bits are taken least significant first,
and the register starts and ends inverted.
-/

namespace ContentCoding.Crc32

/-- The generator polynomial, with its bits reversed. -/
def polynomial : UInt32 := 0xEDB88320

/-- Shift so many bits out of the register. -/
def shift : (count : Nat) → UInt32 → UInt32
  | 0, register => register
  | count + 1, register =>
    shift count
      (if register &&& 1 = 1 then (register >>> 1) ^^^ polynomial else register >>> 1)

/-- Take one byte into the register. -/
def take (register : UInt32) (byte : UInt8) : UInt32 := shift 8 (register ^^^ byte.toUInt32)

/-- The check of a byte string. -/
def ofBytes (bytes : Bytes) : UInt32 := bytes.foldl take 0xFFFFFFFF ^^^ 0xFFFFFFFF

end ContentCoding.Crc32
