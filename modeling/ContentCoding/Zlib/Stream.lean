import ContentCoding.Checksum.Adler32
import ContentCoding.Deflate.Block

/-!
# Zlib streams

A zlib stream is deflate data after a header of two bytes and before the
Adler-32 checksum of what it decodes to. Whatever is wrong with the header or
the checksum is reported like damage to the data.
-/

namespace ContentCoding.Zlib

/-- Which part of a zlib stream comes next. -/
inductive Mode
  /-- The header. -/
  | header
  /-- Deflate data. -/
  | body (mode : Deflate.Mode)
  /-- The checksum. -/
  | checksum

/-- Whether two bytes are a header: the method is deflate with a window of at most
2^15, there is no preset dictionary, and the check bits fit. -/
def isHeader (method flags : UInt8) : Bool :=
  method &&& 0x0F == 8 && method >>> 4 ≤ 7 && flags &&& 0x20 == 0 &&
    (method.toNat * 256 + flags.toNat) % 31 == 0

/-- The checksum must be that of the output. -/
def checkSum : (given : Bytes) → Scan Unit
  | given => .inspect fun history _ =>
    Scan.require (given == Bytes.bigEndian 4 (Adler32.ofBytes history.toList)) Deflate.corrupt

/-- A unit of a zlib stream. -/
def unit : Mode → Scan.Need (Option Mode)
  | .header => .byte fun method => .byte fun flags =>
    (Scan.require (isHeader method flags) Deflate.corrupt).bind fun _ =>
      .done (some (.body .head))
  | .body mode => (Deflate.unit mode).map fun
    | some mode => some (.body mode)
    | none => some .checksum
  | .checksum => .byte fun first =>
    (Scan.bytes 3).bind fun rest => (checkSum (first :: rest)).bind fun _ => .done none

/-- Zlib streams. -/
def format : Format where
  Mode := Mode
  start := .header
  unit
  ending _ _ := .error Deflate.truncated

end ContentCoding.Zlib
