import ContentCoding.Bytes
import ContentCoding.Fault

/-!
# The caller's streams

A `Sink` takes encoded bytes and a `Source` hands them out. Both may fail, take
or give less than asked, and carry on afterwards. The caller keeps its stream:
a pipeline holds the stream's state and gives it back, and never ends it.
-/

namespace ContentCoding

/-- A stream that takes bytes. -/
class Sink (σ : Type) where
  /-- Offer bytes and learn how many were taken. -/
  write : σ → Bytes → Except Fault Nat × σ
  /-- Flush. -/
  flush : σ → Except Fault Unit × σ

/-- A stream that hands out bytes. -/
class Source (σ : Type) where
  /-- Read at most so many bytes. No bytes, where there was room for some, is the end. -/
  read : σ → Nat → Except Fault Bytes × σ

/-- A growing array takes everything it is offered. -/
instance : Sink (Array UInt8) where
  write taken bytes := (.ok bytes.length, taken.appendList bytes)
  flush taken := (.ok (), taken)

/-- A byte string hands out its bytes in order, as many as there is room for. -/
instance : Source Bytes where
  read rest room := (.ok (rest.take room), rest.drop room)

end ContentCoding
