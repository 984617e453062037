import ContentCoding.Decode.Transducer

/-!
# Ways in which a zstd frame can be invalid
-/

namespace ContentCoding.Zstd

/-- What is wrong with a frame. -/
inductive Damage
  /-- The magic number is unknown. -/
  | magic
  /-- A reserved bit of the header is set. -/
  | header
  /-- The window is larger than this decoder allows. -/
  | window
  /-- The frame asks for a dictionary. -/
  | dictionary
  /-- The checksum is wrong. -/
  | checksum
  /-- Tables are used again that were never given. -/
  | tables
  /-- Four streams are said to hold fewer literals than they can. -/
  | literals
  /-- The bytes of a block end before the codes of its sequences begin, or are too many. -/
  | size
  /-- There is no room for what a block decodes to. -/
  | room
  /-- Anything else. -/
  | data
  deriving DecidableEq, Repr

/-- The text of a report. -/
def Damage.message : Damage → String
  | magic => "Unknown frame descriptor"
  | header => "Unsupported frame parameter"
  | window => "Frame requires too much memory for decoding"
  | dictionary => "Dictionary mismatch"
  | checksum => "Restored data doesn't match checksum"
  | tables => "Dictionary is corrupted"
  | literals => "Header of Literals' block doesn't respect format specification"
  | size => "Src size is incorrect"
  | room => "Destination buffer is too small"
  | data => "Data corruption detected"

/-- The report of an invalid frame. -/
def Damage.failure (damage : Damage) : Failure := ⟨.described .other damage.message, true⟩

/-- The report of a stream that ends within a frame. -/
def incomplete : Failure := ⟨.described .unexpectedEof "incomplete frame", true⟩

end ContentCoding.Zstd
