import ContentCoding.Bytes
import ContentCoding.Fault

/-!
# Decoding one byte at a time

A `Transducer` is what a coding does to an encoded stream, apart from where the
bytes come from: it is fed one byte at a time and answers each with some
output, and with how it goes on. Because it sees single bytes, how a stream was
cut into pieces cannot matter.

`decode` runs a whole stream through a transducer. It is what every buffered
reader of that coding must agree with, whatever its source and its caller do.
-/

namespace ContentCoding

/-- A reported end of decoding. -/
structure Failure where
  /-- What a read reports. -/
  fault : Fault
  /-- Whether every later read reports it again. Otherwise later reads see the end
  of the stream. -/
  lasting : Bool := true
  deriving DecidableEq

/-- How decoding goes on after a byte. -/
inductive Transition (S : Type) : Type
  /-- More input is wanted. -/
  | running (output : Bytes) (state : S)
  /-- The encoded stream is complete. -/
  | finished (output : Bytes)
  /-- The encoded stream is not valid. -/
  | failed (failure : Failure)

/-- A coding seen from its decoder. -/
structure Transducer : Type 1 where
  /-- What is remembered between bytes. -/
  State : Type
  /-- Nothing has been read. -/
  start : State
  /-- Take one byte of the encoded stream. -/
  feed : State → UInt8 → Transition State
  /-- What it means that the encoded stream ends here. -/
  ending : State → Except Failure Unit

/-- The result of decoding a whole stream: the output, and the failure that ended
it if one did. -/
structure Decoded where
  /-- The decoded bytes. -/
  output : Bytes
  /-- Why decoding stopped early. -/
  failure : Option Failure

namespace Transducer

/-- Decode a whole stream from a state. Bytes after its end are not looked at. -/
def decodeFrom (coding : Transducer) : coding.State → Bytes → Decoded
  | state, [] =>
    match coding.ending state with
    | .ok () => ⟨[], none⟩
    | .error failure => ⟨[], some failure⟩
  | state, byte :: rest =>
    match coding.feed state byte with
    | .running output state =>
      let later := coding.decodeFrom state rest
      ⟨output ++ later.output, later.failure⟩
    | .finished output => ⟨output, none⟩
    | .failed failure => ⟨[], some failure⟩

/-- Decode a whole stream. -/
def decode (coding : Transducer) (encoded : Bytes) : Decoded :=
  coding.decodeFrom coding.start encoded

end Transducer

end ContentCoding
