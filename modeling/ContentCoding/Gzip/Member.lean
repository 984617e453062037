import ContentCoding.Checksum.Crc32
import ContentCoding.Deflate.Block

/-!
# Gzip streams

A gzip stream is a series of members, at least one. A member is deflate data
after a header and before a trailer, which holds the CRC-32 and the length of
what the data decodes to. The header has ten fixed bytes and then such fields as
its flags announce, the last of them a check of the header itself.

Each member starts afresh: copies do not reach back into the one before.
-/

namespace ContentCoding.Gzip

/-- Which part of a gzip stream comes next. -/
inductive Mode
  /-- A header, of the first member or of a later one. -/
  | header (first : Bool)
  /-- Deflate data. -/
  | body (mode : Deflate.Mode)
  /-- A trailer. -/
  | trailer

/-- The report of a stream that ends within a header or a trailer. The first header is
read when the layer is made, so its failures are reported once. -/
def cutShort (first : Bool) : Failure := ⟨.bare .unexpectedEof, !first⟩

/-- The report of fixed header bytes that do not start a member. -/
def invalidHeader (first : Bool) : Failure :=
  ⟨.described .invalidInput "invalid gzip header", !first⟩

/-- The report of a text in the header that does not end. -/
def fieldTooLong (first : Bool) : Failure :=
  ⟨.described .invalidInput "gzip header field too long", !first⟩

/-- The text of the report of a check that fails. -/
def mismatch : Fault :=
  .described .invalidInput "corrupt gzip stream does not have a matching checksum"

/-- The longest text in a header. -/
def maxField : Nat := 65535

/-- The flag that announces a check of the header. -/
def checkFlag : UInt8 := 2

/-- The flag that announces a field of extra bytes. -/
def extraFlag : UInt8 := 4

/-- The flag that announces a name. -/
def nameFlag : UInt8 := 8

/-- The flag that announces a comment. -/
def commentFlag : UInt8 := 16

/-- The flags without a meaning. -/
def reservedFlags : UInt8 := 0xE0

/-- Whether a flag is set. -/
def has (flags flag : UInt8) : Bool := flags &&& flag != 0

/-- The flags of a header, if its fixed bytes start a member. -/
def flagsOf? : Bytes → Option UInt8
  | 0x1F :: 0x8B :: 8 :: flags :: _ => if has flags reservedFlags then none else some flags
  | _ => none

/-- A text up to and with the zero byte that ends it, with so many bytes to go. The
text so far is passed along, last byte first. -/
def textFor (tooLong : Failure) : (count : Nat) → Bytes → Scan Bytes
  | 0, _ => .fail tooLong
  | count + 1, taken => .byte fun last =>
    if last = 0 then .done (last :: taken).reverse else textFor tooLong count (last :: taken)

/-- The extra bytes of a header, after their number. -/
def extraField : Scan Bytes :=
  (Scan.bytes 2).bind fun count =>
    (Scan.bytes (Bytes.valueLE count)).bind fun extra => .done (count ++ extra)

/-- A field that is there only if a flag is set. -/
def optional (flags flag : UInt8) (field : Scan Bytes) : Scan Bytes :=
  if has flags flag then field else .done []

/-- The fields of a header after its fixed bytes. -/
def fields (first : Bool) (fixed : Bytes) (flags : UInt8) : Scan Unit := do
  let text := textFor (fieldTooLong first) (maxField + 1) []
  let extra ← optional flags extraFlag extraField
  let name ← optional flags nameFlag text
  let comment ← optional flags commentFlag text
  let given ← optional flags checkFlag (Scan.bytes 2)
  let check := Bytes.littleEndian 2 (Crc32.ofBytes (fixed ++ extra ++ name ++ comment)).toNat
  Scan.require (!has flags checkFlag || given == check) ⟨mismatch, !first⟩

/-- The rest of a header after its first byte. -/
def header (first : Bool) (magic : UInt8) : Scan (Option Mode) := do
  let fixed := magic :: (← Scan.bytes 9)
  match flagsOf? fixed with
  | none => Scan.fail (invalidHeader first)
  | some flags =>
    fields first fixed flags
    Scan.restart
    return some (.body .head)

/-- The trailer of a member with some data. -/
def trailerOf (data : Bytes) : Bytes :=
  Bytes.littleEndian 4 (Crc32.ofBytes data).toNat ++ Bytes.littleEndian 4 data.length

/-- The trailer must be that of the output. -/
def checkTrailer (given : Bytes) : Scan Unit :=
  .inspect fun history _ =>
    Scan.require (given == trailerOf history.toList) ⟨mismatch, false⟩

/-- A unit of a gzip stream. -/
def unit : Mode → Scan.Need (Option Mode)
  | .header first => .byte (header first)
  | .body mode => (Deflate.unit mode).map fun
    | some mode => some (.body mode)
    | none => some .trailer
  | .trailer => .byte fun first =>
    (Scan.bytes 7).bind fun rest =>
      (checkTrailer (first :: rest)).bind fun _ => .done (some (.header false))

/-- What it means that the stream ends in a unit, or right before it. -/
def ending : Mode → (begun : Bool) → Except Failure Unit
  | .header first, begun => if first || begun then .error (cutShort first) else .ok ()
  | .body _, _ => .error Deflate.truncated
  | .trailer, _ => .error (cutShort false)

/-- Gzip streams. -/
def format : Format where
  Mode := Mode
  start := .header true
  unit
  ending

end ContentCoding.Gzip
