import ContentCoding.Bytes

/-!
# Encoding in one go

A `Packer` is what a coding does to plaintext, apart from where the bytes go. It
takes plaintext without putting anything out. Flushing gives bytes from which
everything taken so far can be decoded, and finishing gives the rest of the
stream. So the only choices that show in a stream are where it was flushed.

It is the counterpart of a `Transducer`: what a packer gives, the transducer of
the same coding has to take back.
-/

namespace ContentCoding

/-- A coding seen from its encoder. -/
structure Packer : Type 1 where
  /-- What is remembered between calls. -/
  State : Type
  /-- Nothing has been taken. -/
  start : State
  /-- Take plaintext. -/
  take : State → Bytes → State
  /-- Put out all that was taken. -/
  flush : State → Bytes × State
  /-- End the stream. -/
  finish : State → Bytes

namespace Packer

/-- Encode a whole byte string. -/
def encode (packer : Packer) (data : Bytes) : Bytes :=
  packer.finish (packer.take packer.start data)

/-- The state of a packer with something around it. -/
structure Wrapped (S : Type) where
  /-- What goes before the first output. -/
  opening : Bytes
  /-- Everything that was taken. -/
  data : Array UInt8 := #[]
  /-- The packer inside. -/
  inner : S

/-- A packer whose stream has something before it, and something after it that
depends on the data. -/
def wrap (opening : Bytes) (closing : Bytes → Bytes) (packer : Packer) : Packer where
  State := Wrapped packer.State
  start := ⟨opening, #[], packer.start⟩
  take
    | ⟨opening, data, inner⟩, bytes => ⟨opening, data.appendList bytes, packer.take inner bytes⟩
  flush
    | ⟨opening, data, inner⟩ =>
      let (output, inner) := packer.flush inner
      (opening ++ output, ⟨[], data, inner⟩)
  finish
    | ⟨opening, data, inner⟩ => opening ++ packer.finish inner ++ closing data.toList

end Packer

end ContentCoding
