import ContentCoding.Decode.Buffered
import ContentCoding.Encode.Deferred
import ContentCoding.Encode.Verified
import ContentCoding.Zstd.Compressed

/-!
# Zstd layers

Interrupted writes are made again on the write side. On the read side every
interruption is reported. Finalizing the decoding layer releases what it holds,
and from then on it is at its end.
-/

namespace ContentCoding.Zstd

/-- How many encoded bytes are asked for at a time. -/
def bufferSize : Nat := 131075

/-- The coding as its decoder sees it. -/
def coding : Transducer := format.transducer

/-- The rule for reading frames. -/
def readRule (patience : Nat) : ReadRule coding.State where
  bufferSize
  patience
  emptyRead := .decodes
  releases := true

/-- The decoding layer. -/
def decoder (patience : Nat) : Decoder := coding.decoder (readRule patience)

/-- Raw blocks may stand wherever a block begins, if there is room for them. -/
def settle : coding.State → Option coding.State :=
  Format.settled fun
    | .block state => state.takesRaw
    | .frame _ _ | .content _ _ | .checksum _ => false

/-- The coding as its encoder sees it. -/
def packer : Packer := .verified coding settle compressing storing

/-- The rule for writing frames. -/
def deferRule (patience : Nat) : DeferRule where
  delivery := ⟨.described .writeZero "writer will not accept any more data", true⟩
  patience

/-- The encoding layer. -/
def encoder (patience : Nat) : Encoder := packer.encoder (deferRule patience)

/-- The encoding layer before its first call. -/
def fresh (patience : Nat) : (encoder patience).State := .fresh packer (deferRule patience)

end ContentCoding.Zstd
