import ContentCoding.Decode.Scan

/-!
# Formats

A `Format` divides an encoded stream into units, such as headers, blocks and
trailers. Its mode says which unit comes next. Each unit is a scan that starts
by asking for input and ends with the next mode, or with none when the stream
is complete. So every unit takes part of the stream, and reading a format needs
no bound other than the stream itself.

`Format.transducer` reads a format a byte at a time.
-/

namespace ContentCoding

/-- A division of encoded streams into units. -/
structure Format : Type 1 where
  /-- Which unit comes next, and what is known from the units before it. -/
  Mode : Type
  /-- The first unit. -/
  start : Mode
  /-- A unit, which ends with the next mode if the stream goes on. -/
  unit : Mode → Scan.Need (Option Mode)
  /-- What it means that the stream ends in a unit, or, if that has not begun,
  right before it. -/
  ending : Mode → (begun : Bool) → Except Failure Unit

namespace Format

/-- A format part way through a stream. -/
structure Position (format : Format) where
  /-- The present unit. -/
  mode : format.Mode
  /-- Whether any of its input has been taken. -/
  begun : Bool
  /-- What the unit needs. -/
  need : Scan.Need (Option format.Mode)
  /-- The output since the last restart. -/
  history : Array UInt8

variable {format : Format}

/-- The position before a unit. -/
def before (mode : format.Mode) (history : Array UInt8) : Position format :=
  ⟨mode, false, format.unit mode, history⟩

/-- Give a unit its input and carry it on. -/
def proceed (mode : format.Mode) (bitsLeft : Nat) (scan : Scan (Option format.Mode))
    (trail : Scan.Trail) : Transition (Position format) :=
  match scan.advance bitsLeft trail with
  | (.needs need, ⟨history, fresh⟩) => .running fresh ⟨mode, true, need, history⟩
  | (.done (some mode), ⟨history, fresh⟩) => .running fresh (before mode history)
  | (.done none, ⟨_, fresh⟩) => .finished fresh
  | (.failed failure, _) => .failed failure

/-- Take the bits of a byte. A unit that needs a whole byte waits for the next one.
The output is passed along reversed. -/
def feedBits : List Bool → Position format → (fresh : Bytes) → Transition (Position format)
  | [], position, fresh => .running fresh.reverse position
  | bit :: bits, ⟨mode, begun, need, history⟩, fresh =>
    match need with
    | .byte next => .running fresh.reverse ⟨mode, begun, .byte next, history⟩
    | .bit next =>
      match proceed mode bits.length (next bit) ⟨history, fresh⟩ with
      | .running fresh position => feedBits bits position fresh
      | .finished fresh => .finished fresh.reverse
      | .failed failure => .failed failure

/-- The bits of a byte, least significant first. -/
def bitsOf (byte : UInt8) : List Bool :=
  [byte &&& 1 != 0, byte &&& 2 != 0, byte &&& 4 != 0, byte &&& 8 != 0,
    byte &&& 16 != 0, byte &&& 32 != 0, byte &&& 64 != 0, byte &&& 128 != 0]

/-- Take one byte. -/
def feed : Position format → UInt8 → Transition (Position format)
  | ⟨mode, begun, need, history⟩, byte =>
    match need with
    | .bit next => feedBits (bitsOf byte) ⟨mode, begun, .bit next, history⟩ []
    | .byte next =>
      match proceed mode 0 (next byte) ⟨history, []⟩ with
      | .running fresh position => .running fresh.reverse position
      | .finished fresh => .finished fresh.reverse
      | .failed failure => .failed failure

/-- A format as a transducer. -/
def transducer (format : Format) : Transducer where
  State := Position format
  start := before format.start #[]
  feed := feed
  ending position := format.ending position.mode position.begun

end Format

end ContentCoding
