import ContentCoding.Bytes

/-!
# Bytes written as text

Fixed data stands in the text as digits of six bits: letters, digits, `-` and `_`.
Four digits make three bytes, the first digit in the highest bits.
-/

namespace ContentCoding.Text.Radix64

/-- The value of a digit. Other characters count as zero. -/
def digit (c : Char) : UInt32 :=
  if 'A' ≤ c ∧ c ≤ 'Z' then c.val - 65
  else if 'a' ≤ c ∧ c ≤ 'z' then c.val - 71
  else if '0' ≤ c ∧ c ≤ '9' then c.val + 4
  else if c = '-' then 62
  else if c = '_' then 63
  else 0

/-- Append the bytes that digits stand for. Digits that do not make three bytes are
left out. -/
def appendTo : Array UInt8 → List Char → Array UInt8
  | bytes, a :: b :: c :: d :: rest =>
    let value := digit a <<< 18 ||| digit b <<< 12 ||| digit c <<< 6 ||| digit d
    appendTo
      (((bytes.push (value >>> 16).toUInt8).push (value >>> 8).toUInt8).push value.toUInt8) rest
  | bytes, _ => bytes

/-- The bytes that lines of digits stand for. -/
def decode (lines : List String) : Array UInt8 :=
  lines.foldl (fun bytes line => appendTo bytes line.toList) #[]

end ContentCoding.Text.Radix64
