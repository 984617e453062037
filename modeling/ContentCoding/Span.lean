import ContentCoding.Amount
import ContentCoding.Decode.Scan
import ContentCoding.Encode.BitField

/-!
# Ranges of values

Where a coding has more values than symbols, a symbol stands for a range of values, and
further bits choose among them. The ranges of a coding follow one another without gaps.
-/

namespace ContentCoding

/-- A range of values: the least one, and how many further bits choose among them. -/
structure Span where
  /-- The least value. -/
  least : Nat
  /-- The number of bits. -/
  bits : Nat
  deriving Inhabited, Repr

namespace Span

/-- Ranges one after another, with given numbers of bits. -/
def seriesFrom : (least : Nat) → List Nat → List Span
  | _, [] => []
  | least, bits :: rest => ⟨least, bits⟩ :: seriesFrom (least + twoTo bits) rest

/-- Read a value in a range. -/
def read (span : Span) : Scan Nat :=
  (Scan.bits span.bits).bind fun offset => .done (span.least + offset)

/-- The bits that choose a value in a range. -/
def field (span : Span) (value : Nat) : BitField := ⟨span.bits, value - span.least⟩

/-- The last range that begins at or below a value. -/
def indexIn (spans : Array Span) (value : Nat) : Nat :=
  (spans.toList.takeWhile fun span => span.least ≤ value).length - 1

end Span

end ContentCoding
