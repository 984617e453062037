import ContentCoding.Amount
import ContentCoding.Bytes

/-!
# Bits read back to front

Entropy-coded parts of a frame are written forward and read backward. The last
byte holds a marker: its highest set bit, above which nothing counts. A `BitStack`
is what is left below the marker, so that reading takes bits off the top.

Valid data never takes more bits than there are. Data that does is found out in
the end, but what it decodes to until then can decide how it is refused. So bits
below the bottom have values too: there the first eight bytes come round again.
-/

namespace ContentCoding.Zstd

/-- Bits to be read from the last one down. -/
structure BitStack where
  /-- The bytes that hold them. -/
  bytes : Array UInt8
  /-- How many bits are left, or below zero by how many too many were taken. -/
  left : Int

namespace BitStack

/-- The bits below the marker, if there is one. -/
def ofBytes? (bytes : Bytes) : Option BitStack :=
  match bytes.getLast? with
  | none => none
  | some last =>
    if last = 0 then none
    else some ⟨bytes.toArray, 8 * (bytes.length - 1) + last.toNat.log2⟩

/-- The bit at a position. -/
def bitAt (stack : BitStack) (position : Nat) : Nat :=
  (stack.bytes.getD (position / 8) 0).toNat / twoTo (position % 8) % 2

/-- The number that so many bits spell, the lowest of them at a position. -/
def spelled (stack : BitStack) (position : Nat) : (count : Nat) → Nat
  | 0 => 0
  | count + 1 => stack.spelled position count + stack.bitAt (position + count) * twoTo count

/-- The number that the first eight bytes spell. -/
def front (stack : BitStack) : Nat := Bytes.valueLE (stack.bytes.extract 0 8).toList

/-- The number that so many top bits spell. If too few are left, zeros follow them, and if
none are, the top bits are those of the first eight bytes, less as many as were taken too
many. -/
def peek (stack : BitStack) (count : Nat) : Nat :=
  if count ≤ stack.left then stack.spelled (stack.left.toNat - count) count
  else stack.front * twoTo ((-stack.left) % 64).toNat % twoTo 64 / twoTo (64 - count)

/-- The number that so many top bits spell. If too few are left, what is missing comes from
the top of the first eight bytes. -/
def peekState (stack : BitStack) (count : Nat) : Nat :=
  if count ≤ stack.left then stack.spelled (stack.left.toNat - count) count
  else stack.front / twoTo ((stack.left - count) % 64).toNat % twoTo count

/-- Take bits off the top. -/
def drop (stack : BitStack) (count : Nat) : BitStack := { stack with left := stack.left - count }

/-- Take a number off the top, if there are so many bits. -/
def pop? (stack : BitStack) (count : Nat) : Option (Nat × BitStack) :=
  if count ≤ stack.left then some (stack.peek count, stack.drop count) else none

end BitStack

end ContentCoding.Zstd
