import ContentCoding.Amount
import ContentCoding.Bytes

/-!
# Writing bits

Encoders write numbers in given numbers of bits, least significant first, one right
after the other. A `BitField` is such a number. A `BitWriter` holds the bytes that are
full, and the bits of the byte that is being filled.
-/

namespace ContentCoding

/-- A number to be written in a given number of bits. -/
structure BitField where
  /-- The number of bits. -/
  width : Nat
  /-- The number. Bits beyond the width are not written. -/
  value : Nat
  deriving Inhabited, Repr

namespace BitField

/-- How many bits fields take together. -/
def totalWidth (fields : List BitField) : Nat := fields.foldl (fun sum field => sum + field.width) 0

end BitField

/-- Bytes that are being filled with bits. -/
structure BitWriter where
  /-- The bytes that are full. -/
  bytes : Array UInt8 := #[]
  /-- The number of bits in the next byte. -/
  count : Nat := 0
  /-- The number that these bits spell. -/
  pending : Nat := 0
  deriving Inhabited

namespace BitWriter

/-- Move full bytes out of the pending bits. -/
def spill (writer : BitWriter) : BitWriter :=
  if _h : 8 ≤ writer.count then
    spill ⟨writer.bytes.push (UInt8.ofNat writer.pending), writer.count - 8, writer.pending / 256⟩
  else writer
termination_by writer.count

/-- Write a field. -/
def add (writer : BitWriter) (field : BitField) : BitWriter :=
  let value := field.value % twoTo field.width
  spill ⟨writer.bytes, writer.count + field.width, writer.pending + value <<< writer.count⟩

/-- Write fields one after another. -/
def addAll (writer : BitWriter) (fields : List BitField) : BitWriter := fields.foldl add writer

/-- Fill up the present byte with zeros. -/
def align (writer : BitWriter) : BitWriter :=
  if writer.count = 0 then writer else writer.add ⟨8 - writer.count, 0⟩

/-- Append whole bytes, which must begin where a byte begins. -/
def addBytes (writer : BitWriter) (bytes : Bytes) : BitWriter :=
  { writer with bytes := writer.bytes.appendList bytes }

/-- How many bits have been written. -/
def size (writer : BitWriter) : Nat := 8 * writer.bytes.size + writer.count

end BitWriter

end ContentCoding
