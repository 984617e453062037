import ContentCoding.Amount
import ContentCoding.Brotli.MetaBlock
import ContentCoding.Decode.Format

/-!
# Brotli streams

A stream says how large its window is, and goes on with meta-blocks up to a last one.
A meta-block is compressed, or it holds bytes as they are, or bytes to be passed over.
Where bits are left out up to the next whole byte they have to be zero.
-/

namespace ContentCoding.Brotli

/-- Which part of a stream comes next. -/
inductive Mode
  /-- The size of the window. -/
  | opening
  /-- A meta-block. -/
  | metaBlock (window : Window) (recent : Recent)

/-- The logarithm of the size of a window that may be very large. -/
def wideBits : Scan Nat := do
  Scan.require ((← Scan.bits 1) = 0) invalid
  let bits ← Scan.bits 6
  Scan.require (10 ≤ bits && bits ≤ 30) invalid
  return bits

/-- The window, after the first bit. -/
def window (first : Bool) : Scan Window := do
  if !first then return { bits := 16 }
  let high ← Scan.bits 3
  if high ≠ 0 then return { bits := 17 + high }
  match ← Scan.bits 3 with
  | 0 => return { bits := 17 }
  | 1 => return { bits := ← wideBits, wide := true }
  | low => return { bits := 8 + low }

/-- The result of a scan that needs no more than the bits that are given. -/
def readBits {α : Type} : List Bool → Scan α → Option α
  | _, .done result => some result
  | bit :: bits, .bit next => readBits bits (next bit)
  | _, _ => none

/-- The window that the first byte of a stream states. -/
def statedWindow : (stream : Bytes) → Option Window
  | [] => none
  | byte :: _ =>
    match Format.bitsOf byte with
    | [] => none
    | first :: bits => readBits bits (window first)

/-- Leave out the rest of a byte. -/
def padding : Scan Unit :=
  .inspect fun _ bitsLeft =>
    (Scan.bits bitsLeft).bind fun rest => Scan.require (rest = 0) invalid

/-- A number of a given number of digits, the last of which may be zero only if there
are no more digits than a given number. -/
def digits (base : Nat) (shortest : Nat) : (count : Nat) → Scan Nat
  | 0 => .done 0
  | count + 1 => do
    let digit ← Scan.bits base
    let rest ← digits base (shortest - 1) count
    Scan.require (count ≠ 0 || shortest ≠ 0 || digit ≠ 0) invalid
    return digit + twoTo base * rest

/-- Bytes to be passed over. -/
def metadata : Scan Unit := do
  Scan.require ((← Scan.bits 1) = 0) invalid
  match ← Scan.bits 2 with
  | 0 => padding
  | count =>
    let size := (← digits 8 1 count) + 1
    padding
    Scan.skip size

/-- A meta-block after the bits that say whether it is the last one. -/
def metaBlock (window : Window) (recent : Recent) (last : Bool) : Scan Recent := do
  match ← Scan.bits 2 with
  | 3 =>
    metadata
    return recent
  | more =>
    let size := (← digits 4 4 (4 + more)) + 1
    let stored ← if last then pure 0 else Scan.bits 1
    if stored = 1 then
      padding
      Scan.store size
      return recent
    else compressed window size recent

/-- A meta-block after its first bit, and what follows it. -/
def metaBlockUnit (window : Window) (recent : Recent) (last : Bool) : Scan (Option Mode) := do
  if last then
    if (← Scan.bits 1) = 0 then
      let _ ← metaBlock window recent true
    padding
    return none
  else
    let recent ← metaBlock window recent false
    return some (.metaBlock window recent)

/-- A unit of a stream. -/
def unit : Mode → Scan.Need (Option Mode)
  | .opening => .bit fun first => do
    return some (.metaBlock (← window first) {})
  | .metaBlock window recent => .bit (metaBlockUnit window recent)

/-- Brotli streams. -/
def format : Format where
  Mode := Mode
  start := .opening
  unit
  ending _ _ := .error invalid

end ContentCoding.Brotli
