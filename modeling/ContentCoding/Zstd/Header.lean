import ContentCoding.Amount
import ContentCoding.Decode.Scan
import ContentCoding.Zstd.Damage

/-!
# Headers of zstd frames

A frame starts with a magic number and then says how large a window decoding
takes, which dictionary it needs, how many bytes it decodes to and whether a
checksum follows. All but the window may be left out.
-/

namespace ContentCoding.Zstd

/-- The magic number of a frame. -/
def magic : Bytes := [0x28, 0xB5, 0x2F, 0xFD]

/-- Whether bytes can begin the magic number of a frame to be passed over. -/
def beginsSkippable : Bytes → Bool
  | [] => true
  | first :: rest => first >>> 4 == 5 && rest.isPrefixOf [0x2A, 0x4D, 0x18]

/-- Whether bytes can begin a magic number. -/
def beginsMagic (bytes : Bytes) : Bool := bytes.isPrefixOf magic || beginsSkippable bytes

/-- Take the bytes of a magic number, of which so many are missing. -/
def magicAfter : (count : Nat) → (taken : Bytes) → Scan Bytes
  | 0, taken => if beginsMagic taken then .done taken else .fail Damage.magic.failure
  | count + 1, taken =>
    if beginsMagic taken then .byte fun next => magicAfter count (taken ++ [next])
    else .fail Damage.magic.failure

/-- What the header of a frame says. -/
structure Header where
  /-- The size of the window. -/
  window : Nat
  /-- The dictionary that is asked for, or zero. -/
  dictionary : Nat
  /-- The number of bytes that the frame decodes to, if it says so. -/
  contentSize : Option Nat
  /-- Whether a checksum follows the last block. -/
  hasChecksum : Bool
  /-- Whether a reserved bit is set. -/
  reserved : Bool
  /-- Whether the size of the window is given in a form that no decoder takes. -/
  excessive : Bool

namespace Header

/-- The window that a byte describes. -/
def windowOf (descriptor : Nat) : Nat :=
  let base := twoTo (10 + descriptor / 8)
  base + base / 8 * (descriptor % 8)

/-- The number that stands for an unknown size where there are eight bytes for it. -/
def unknownSize : Nat := twoTo 64 - 1

/-- The rest of a header after the byte that describes its fields. -/
def ofDescriptor (descriptor : Nat) : Scan Header := do
  let single := descriptor / 32 % 2 = 1
  let window ← Scan.bytes (if single then 0 else 1)
  let dictionary ← Scan.bytes (match descriptor % 4 with | 0 => 0 | 1 => 1 | 2 => 2 | _ => 4)
  let sizeWidth := match descriptor / 64 with
    | 0 => if single then 1 else 0
    | 1 => 2
    | 2 => 4
    | _ => 8
  let size ← Scan.bytes sizeWidth
  let value := Bytes.valueLE size + if sizeWidth = 2 then 256 else 0
  return {
    window := if single then value else windowOf (Bytes.valueLE window)
    dictionary := Bytes.valueLE dictionary
    contentSize := if sizeWidth = 0 || value = unknownSize then none else some value
    hasChecksum := descriptor / 4 % 2 = 1
    reserved := descriptor / 8 % 2 = 1
    excessive := 176 ≤ Bytes.valueLE window }

end Header

end ContentCoding.Zstd
