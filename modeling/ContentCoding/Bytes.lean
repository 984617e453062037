import ContentCoding.Amount

/-!
# Byte strings

Every stream of this library is a list of bytes: what a layer is given, what it
hands on, and what reaches the caller's sink. Lists are the specification and
the data path at once, so no statement about a stream needs a second view.
-/

namespace ContentCoding

/-- A finite stream of bytes. -/
abbrev Bytes := List UInt8

namespace Bytes

/-- The UTF-8 bytes of a text. -/
def ofText (text : String) : Bytes := text.toUTF8.data.toList

/-- A number as a fixed count of bytes, least significant first. Higher digits
are dropped. -/
def littleEndian : (count : Nat) → (value : Nat) → Bytes
  | 0, _ => []
  | count + 1, value => UInt8.ofNat value :: littleEndian count (value / 256)

/-- A number as a fixed count of bytes, most significant first. -/
def bigEndian (count value : Nat) : Bytes := (littleEndian count value).reverse

/-- The number that bytes spell, least significant first. -/
def valueLE : Bytes → Nat
  | [] => 0
  | byte :: rest => byte.toNat + 256 * valueLE rest

/-- A little-endian field of fixed width has that many bytes. -/
theorem length_littleEndian (count value : Nat) :
    (littleEndian count value).length = count := by
  induction count generalizing value with
  | zero => rfl
  | succ count ih => simp [littleEndian, ih]

/-- Reading back a field of fixed width gives the value reduced to that width. -/
theorem valueLE_littleEndian (count value : Nat) :
    valueLE (littleEndian count value) = value % twoTo (8 * count) := by
  induction count generalizing value with
  | zero => simp [littleEndian, valueLE, Nat.mod_one]
  | succ count ih =>
    have hb : (UInt8.ofNat value).toNat = value % 256 := by simp
    have hw : twoTo (8 * (count + 1)) = 256 * twoTo (8 * count) := by
      rw [Nat.mul_succ, Nat.add_comm, twoTo_byte]
    rw [littleEndian, valueLE, hb, ih, hw, Nat.mod_mul]

/-- Bytes spell what their first part and their last part spell. -/
theorem valueLE_append (first second : Bytes) :
    valueLE (first ++ second) = valueLE first + twoTo (8 * first.length) * valueLE second := by
  induction first with
  | nil => exact ((Nat.zero_add _).trans (Nat.one_mul _)).symm
  | cons byte first ih =>
    have hw : twoTo (8 * (byte :: first).length) = 256 * twoTo (8 * first.length) := by
      rw [List.length_cons, Nat.mul_succ, Nat.add_comm, twoTo_byte]
    rw [List.cons_append, valueLE, valueLE, ih, hw, Nat.mul_add, Nat.mul_assoc, Nat.add_assoc]

/-- Where output is passed along reversed, bytes that are put onto it come behind it. -/
theorem reverse_reverseAux (more output : Bytes) :
    (more.reverseAux output).reverse = output.reverse ++ more := by
  rw [List.reverseAux_eq, List.reverse_append, List.reverse_reverse]

end Bytes

end ContentCoding
