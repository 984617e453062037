import ContentCoding.Amount

/-!
# Estimates of sizes

How many bits a code would take for symbols that occur given numbers of times is
estimated from the logarithms of the counts. Estimates only guide choices, so they are
floating point numbers, and nothing about a stream depends on what they mean.
-/

namespace ContentCoding.Brotli

/-- The logarithm of a count, zero for zero. Small ones are known in single precision. -/
def logarithm (count : Nat) : Float :=
  if count = 0 then 0
  else if count < 256 then (Float.ofNat count).log2.toFloat32.toFloat
  else (Float.ofNat count).log2

/-- The bits that the best imaginable code takes for all symbols together. -/
def informationOf (counts : List Nat) : Float :=
  let (total, bits) := counts.foldl
    (fun (total, bits) count =>
      if count = 0 then (total, bits)
      else (total + count, bits - Float.ofNat count * logarithm count))
    (0, (0 : Float))
  bits + Float.ofNat total * logarithm total

/-- The bits that a code takes for all symbols together, at least one for each. -/
def estimatedBits (counts : Array Nat) : Float :=
  let bits := informationOf counts.toList
  let total := Float.ofNat (sumOf counts.toList)
  if bits < total then total else bits

end ContentCoding.Brotli
