import ContentCoding.Bytes
import Mathlib.Algebra.Group.Nat.Defs

/-!
# Texts are ordered like their bytes

The order of texts goes by their characters, one after another, and the order of byte strings by
their bytes. UTF-8 makes the two orders one: a greater character begins with a greater byte, or
with the same byte and as many continuing ones, of which the first that differs is greater.

The continuing bytes of a character are digits to the base 64. So the main lemma about them is
the one about digits: of two numbers that agree in their higher digits the smaller one has a
smaller digit where they first differ.
-/

namespace ContentCoding.Bytes

/-- So many last digits of a number to the base 64, as bytes that continue a character. -/
def continuation : (count : Nat) → Nat → Bytes
  | 0, _ => []
  | count + 1, number => UInt8.ofNat (number / 64 ^ count % 64 + 128) :: continuation count number

/-- How many bytes continue the character with a number. -/
def continuing (number : Nat) : Nat :=
  if number ≤ 127 then 0 else if number ≤ 2047 then 1 else if number ≤ 65535 then 2 else 3

/-- The first byte of the character with a number. -/
def leading (number : Nat) : Nat :=
  if number ≤ 127 then number
  else if number ≤ 2047 then number / 64 + 192
  else if number ≤ 65535 then number / 4096 + 224
  else number / 262144 + 240

/-- Characters have numbers below 17 times 2^16. -/
theorem toNat_lt (c : Char) : c.toNat < 1114112 := by
  have hvalid : c.toNat.isValidChar := c.valid
  simp only [Nat.isValidChar] at hvalid
  omega

/-- The first byte of a character, and the bytes that continue it. -/
theorem utf8EncodeChar_eq (c : Char) :
    String.utf8EncodeChar c =
      UInt8.ofNat (leading c.toNat) :: continuation (continuing c.toNat) c.toNat := by
  have hlt := toNat_lt c
  have hnumber : c.val.toNat = c.toNat := rfl
  simp only [String.utf8EncodeChar, hnumber, leading, continuing]
  generalize c.toNat = number at hlt
  split
  · rfl
  split
  · have hfirst : number / 64 % 32 = number / 64 := by omega
    simp [continuation, hfirst]
  split
  · have hfirst : number / 4096 % 16 = number / 4096 := by omega
    simp [continuation, hfirst]
  · have hfirst : number / 262144 % 8 = number / 262144 := by omega
    simp [continuation, hfirst]

/-- A smaller number with the same higher digits has a smaller digit where they first differ. -/
theorem continuation_lt {count first second : Nat} (hhigh : first / 64 ^ count = second / 64 ^ count)
    (hlt : first < second) (rest more : Bytes) :
    continuation count first ++ rest < continuation count second ++ more := by
  induction count with
  | zero =>
    simp only [Nat.pow_zero, Nat.div_one] at hhigh
    omega
  | succ count ih =>
    have hle : first / 64 ^ count ≤ second / 64 ^ count := Nat.div_le_div_right (Nat.le_of_lt hlt)
    rw [Nat.pow_succ, ← Nat.div_div_eq_div_mul, ← Nat.div_div_eq_div_mul] at hhigh
    rw [continuation, continuation, List.cons_append, List.cons_append, List.cons_lt_cons_iff]
    by_cases hsame : first / 64 ^ count = second / 64 ^ count
    · exact .inr ⟨by rw [hsame], ih hsame⟩
    · left
      rw [UInt8.lt_iff_toNat_lt, UInt8.toNat_ofNat', UInt8.toNat_ofNat']
      omega

/-- How the first byte tells how many bytes follow. -/
theorem leading_cases (number : Nat) :
    number ≤ 127 ∧ continuing number = 0 ∧ leading number = number ∨
      128 ≤ number ∧ number ≤ 2047 ∧ continuing number = 1 ∧ leading number = number / 64 + 192 ∨
      2048 ≤ number ∧ number ≤ 65535 ∧ continuing number = 2 ∧
        leading number = number / 4096 + 224 ∨
      65536 ≤ number ∧ continuing number = 3 ∧ leading number = number / 262144 + 240 := by
  unfold leading continuing
  split
  · omega
  split
  · omega
  split <;> omega

/-- A greater character begins with a greater byte, or agrees in the first byte, in the number of
the others and in what is above their digits. -/
theorem leading_lt_or {first second : Nat} (hlt : first < second) :
    leading first < leading second ∨ leading first = leading second ∧
      continuing first = continuing second ∧
      first / 64 ^ continuing first = second / 64 ^ continuing first := by
  obtain ⟨hone, hcount, hlead⟩ | ⟨hone, htwo, hcount, hlead⟩ | ⟨hone, htwo, hcount, hlead⟩ |
    ⟨hone, hcount, hlead⟩ := leading_cases first
  all_goals
    have hsecond := leading_cases second
    rw [hcount, hlead]
    simp only [Nat.reducePow, Nat.div_one]
    omega

/-- The bytes of a smaller character come first, whatever follows. -/
theorem utf8EncodeChar_lt {c d : Char} (hlt : c < d) (rest more : Bytes) :
    String.utf8EncodeChar c ++ rest < String.utf8EncodeChar d ++ more := by
  have hnumbers : c.toNat < d.toNat := hlt
  have hbyte : ∀ character : Char, leading character.toNat < 256 := by
    intro character
    have hbound := toNat_lt character
    have hcases := leading_cases character.toNat
    omega
  rw [utf8EncodeChar_eq, utf8EncodeChar_eq, List.cons_append, List.cons_append,
    List.cons_lt_cons_iff]
  obtain hless | ⟨hsame, hcount, hhigh⟩ := leading_lt_or hnumbers
  · left
    rw [UInt8.lt_iff_toNat_lt, UInt8.toNat_ofNat_of_lt' (hbyte c), UInt8.toNat_ofNat_of_lt' (hbyte d)]
    exact hless
  · rw [← hcount]
    exact .inr ⟨congrArg UInt8.ofNat hsame, continuation_lt hhigh hnumbers rest more⟩

/-- The bytes of a text are those of its characters. -/
theorem ofText_eq (text : String) : ofText text = text.toList.flatMap String.utf8EncodeChar := by
  have hbytes : text.toUTF8 = text.toList.utf8Encode := String.utf8Encode_toList.symm
  rw [ofText, hbytes, List.utf8Encode, List.toList_data_toByteArray]

/-- Texts are ordered like their bytes. -/
theorem ofText_lt {first second : String} (hlt : first < second) :
    ofText first < ofText second := by
  change first.toList < second.toList at hlt
  rw [ofText_eq, ofText_eq]
  generalize first.toList = front at hlt
  generalize second.toList = back at hlt
  induction hlt with
  | nil =>
    rw [List.flatMap_nil, List.flatMap_cons, utf8EncodeChar_eq]
    exact .nil
  | @cons c front back hrest ih =>
    rw [List.flatMap_cons, List.flatMap_cons]
    exact List.append_left_lt ih
  | rel hc =>
    rw [List.flatMap_cons, List.flatMap_cons]
    exact utf8EncodeChar_lt hc _ _

end ContentCoding.Bytes
