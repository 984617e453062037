/-!
# Powers and sums of numbers

Fields of bits and digits are measured in powers of two and of ten, and sizes are added up.
Each of these has a name here, so that a module means the same wherever it is read.
-/

namespace ContentCoding

/-- Two to a power: how many numbers can be written in so many bits. -/
abbrev twoTo (bits : Nat) : Nat := Nat.pow 2 bits

/-- Powers of two multiply. -/
theorem twoTo_add (first second : Nat) : twoTo (first + second) = twoTo first * twoTo second :=
  Nat.pow_add 2 first second

/-- Powers of two are positive. -/
theorem twoTo_pos (bits : Nat) : 0 < twoTo bits := Nat.two_pow_pos bits

/-- More bits make for at least as many numbers. -/
theorem twoTo_le {first second : Nat} (h : first ≤ second) : twoTo first ≤ twoTo second :=
  Nat.pow_le_pow_right (Nat.succ_pos 1) h

/-- One bit more doubles the numbers. -/
theorem twoTo_succ (bits : Nat) : twoTo (bits + 1) = 2 * twoTo bits := by
  rw [twoTo_add, Nat.mul_comm]

/-- Eight bits more are a byte more. -/
theorem twoTo_byte (bits : Nat) : twoTo (8 + bits) = 256 * twoTo bits := twoTo_add 8 bits

/-- Ten to a power: how many numbers can be written in so many digits. -/
abbrev tenTo (digits : Nat) : Nat := Nat.pow 10 digits

/-- The sum of numbers. -/
def sumOf (numbers : List Nat) : Nat := numbers.foldl Nat.add 0

end ContentCoding
