import ContentCoding.Bytes

/-!
# Adler-32

The checksum of zlib: the sum of the bytes plus one, and the sum of all the
intermediate sums, both modulo the largest prime below 2^16.
-/

namespace ContentCoding.Adler32

/-- The modulus of both sums. -/
def modulus : Nat := 65521

/-- The two running sums. -/
structure Sums where
  /-- The sum of the bytes, plus one. -/
  low : Nat := 1
  /-- The sum of the values that the first sum went through. -/
  high : Nat := 0

/-- Take one byte into the sums. -/
def Sums.take : Sums → UInt8 → Sums
  | ⟨low, high⟩, byte =>
    let low := (low + byte.toNat) % modulus
    ⟨low, (high + low) % modulus⟩

/-- The checksum of a byte string. -/
def ofBytes (bytes : Bytes) : Nat :=
  let sums := bytes.foldl Sums.take {}
  sums.high * 65536 + sums.low

end ContentCoding.Adler32
