import ContentCoding.Bytes

/-!
# XXH64

The 64-bit hash whose low half zstd uses as a checksum, with seed zero. Four
lanes each take eight bytes in turn; what does not fill all lanes is taken in
pieces of eight, four and one bytes at the end.
-/

namespace ContentCoding.XxHash64

/-- The first multiplier. -/
def prime1 : UInt64 := 0x9E3779B185EBCA87

/-- The second multiplier. -/
def prime2 : UInt64 := 0xC2B2AE3D27D4EB4F

/-- The third multiplier. -/
def prime3 : UInt64 := 0x165667B19E3779F9

/-- The fourth multiplier. -/
def prime4 : UInt64 := 0x85EBCA77C2B2AE63

/-- The fifth multiplier. -/
def prime5 : UInt64 := 0x27D4EB2F165667C5

/-- Rotate to the left by less than a word. -/
def rotate (value : UInt64) (count : UInt64) : UInt64 :=
  (value <<< count) ||| (value >>> (64 - count))

/-- Take eight bytes into a lane. -/
def round (lane input : UInt64) : UInt64 := rotate (lane + input * prime2) 31 * prime1

/-- The four lanes. -/
structure Lanes where
  /-- The first lane. -/
  first : UInt64 := prime1 + prime2
  /-- The second lane. -/
  second : UInt64 := prime2
  /-- The third lane. -/
  third : UInt64 := 0
  /-- The fourth lane. -/
  fourth : UInt64 := 0 - prime1

/-- The word that bytes spell, least significant first. -/
def word (bytes : Bytes) : UInt64 := UInt64.ofNat (Bytes.valueLE bytes)

/-- Take a stripe of four words. -/
def Lanes.take (lanes : Lanes) (stripe : Bytes) : Lanes where
  first := round lanes.first (word (stripe.take 8))
  second := round lanes.second (word ((stripe.drop 8).take 8))
  third := round lanes.third (word ((stripe.drop 16).take 8))
  fourth := round lanes.fourth (word ((stripe.drop 24).take 8))

/-- Take as many stripes as there are, and leave the rest. -/
def Lanes.takeAll : (stripes : Nat) → Lanes → Bytes → Lanes × Bytes
  | 0, lanes, bytes => (lanes, bytes)
  | stripes + 1, lanes, bytes => takeAll stripes (lanes.take (bytes.take 32)) (bytes.drop 32)

/-- Mix a lane into a hash. -/
def merge (hash lane : UInt64) : UInt64 := (hash ^^^ round 0 lane) * prime1 + prime4

/-- The hash of the lanes. -/
def Lanes.hash (lanes : Lanes) : UInt64 :=
  let sum := rotate lanes.first 1 + rotate lanes.second 7 + rotate lanes.third 12 +
    rotate lanes.fourth 18
  merge (merge (merge (merge sum lanes.first) lanes.second) lanes.third) lanes.fourth

/-- Take so many pieces of eight bytes. -/
def takeWords : (count : Nat) → UInt64 → Bytes → UInt64 × Bytes
  | 0, hash, bytes => (hash, bytes)
  | count + 1, hash, bytes =>
    takeWords count
      (rotate (hash ^^^ round 0 (word (bytes.take 8))) 27 * prime1 + prime4) (bytes.drop 8)

/-- Take a piece of four bytes if there is one. -/
def takeHalf (hash : UInt64) (bytes : Bytes) : UInt64 × Bytes :=
  if 4 ≤ bytes.length then
    (rotate (hash ^^^ word (bytes.take 4) * prime1) 23 * prime2 + prime3, bytes.drop 4)
  else (hash, bytes)

/-- Take a single byte. -/
def takeByte (hash : UInt64) (byte : UInt8) : UInt64 :=
  rotate (hash ^^^ byte.toUInt64 * prime5) 11 * prime1

/-- Spread every bit over the whole word. -/
def avalanche (hash : UInt64) : UInt64 :=
  let hash := (hash ^^^ (hash >>> 33)) * prime2
  let hash := (hash ^^^ (hash >>> 29)) * prime3
  hash ^^^ (hash >>> 32)

/-- The hash of a byte string. -/
def ofBytes (bytes : Bytes) : UInt64 :=
  let length := bytes.length
  let (lanes, rest) := Lanes.takeAll (length / 32) {} bytes
  let start := if length < 32 then prime5 else lanes.hash
  let (hash, rest) := takeWords (length % 32 / 8) (start + UInt64.ofNat length) rest
  let (hash, rest) := takeHalf hash rest
  avalanche (rest.foldl takeByte hash)

end ContentCoding.XxHash64
