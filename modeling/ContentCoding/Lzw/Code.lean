import ContentCoding.Amount
import ContentCoding.Bytes

/-!
# Codes of the LZW coding

Codes name byte strings. The first 256 name single bytes, then come the code
that clears the table and the one that ends the stream, and all others are
assigned as the stream goes on. Codes are written least significant bit first,
in as many bits as the largest code at the time needs, between 9 and 12.

A `BitQueue` holds the bits that have not been written yet, or not been decoded.
-/

namespace ContentCoding.Lzw

/-- Bits of a literal. -/
def literalWidth : Nat := 8

/-- The code that empties the table. -/
def clearCode : Nat := 256

/-- The code that ends the stream. -/
def endCode : Nat := 257

/-- The first code that is assigned to a longer string. -/
def firstFree : Nat := 258

/-- Bits of a code while the table is empty. -/
def minWidth : Nat := 9

/-- Bits of a code at most. -/
def maxWidth : Nat := 12

/-- The number of codes there can be. -/
def codeLimit : Nat := 4096

/-- Bits in the order in which they are written, the first one least significant. -/
structure BitQueue where
  /-- The bits as a number. -/
  value : Nat := 0
  /-- How many bits there are. -/
  count : Nat := 0
  deriving DecidableEq, Repr, Inhabited

namespace BitQueue

/-- Append a code of a given width. -/
def push (queue : BitQueue) (code width : Nat) : BitQueue :=
  ⟨queue.value + code * twoTo queue.count, queue.count + width⟩

/-- Take a code of a given width off the front. -/
def pop (queue : BitQueue) (width : Nat) : Nat × BitQueue :=
  (queue.value % twoTo width, ⟨queue.value / twoTo width, queue.count - width⟩)

/-- Take a code of a given width off the front, if all of it is there. -/
def next? (queue : BitQueue) (width : Nat) : Option (Nat × BitQueue) :=
  if queue.count < width then none else some (queue.pop width)

/-- Append bytes, at most so many, and hand back the others. -/
def append : (limit : Nat) → BitQueue → Bytes → BitQueue × Bytes
  | limit + 1, queue, byte :: bytes => append limit (queue.push byte.toNat 8) bytes
  | _, queue, bytes => (queue, bytes)

/-- Append as many bytes as a word of 64 bits has room for. -/
def refill (queue : BitQueue) (bytes : Bytes) : BitQueue × Bytes :=
  append ((64 - queue.count) / 8) queue bytes

/-- Append zero bits up to a full byte. -/
def pad (queue : BitQueue) : BitQueue := ⟨queue.value, (queue.count + 7) / 8 * 8⟩

/-- Take bytes off the front, at most so many, putting them on a reversed output. -/
def drain : (limit : Nat) → BitQueue → Bytes → BitQueue × Bytes
  | 0, queue, output => (queue, output)
  | limit + 1, queue, output =>
    drain limit ⟨queue.value / 256, queue.count - 8⟩ (UInt8.ofNat queue.value :: output)

end BitQueue

end ContentCoding.Lzw
