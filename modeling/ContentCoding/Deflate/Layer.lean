import ContentCoding.Decode.Buffered
import ContentCoding.Deflate.Compressed
import ContentCoding.Encode.Deferred
import ContentCoding.Encode.Verified

/-!
# Deflate layers

The layers of deflate data on its own. The same read rule serves for every
coding built on deflate data: each read first fills an empty buffer, and
decoding runs ahead by a window of output.
-/

namespace ContentCoding.Deflate

/-- How many encoded bytes are asked for at a time. -/
def bufferSize : Nat := 32768

/-- How far copies can reach back. -/
def windowSize : Nat := 32768

/-- The rule for reading deflate data. -/
def readRule (S : Type) (patience : Nat) : ReadRule S where
  bufferSize
  patience
  lookahead := windowSize
  prefetches _ := true
  emptyRead := .probes

/-- The rule for writing deflate data. Interrupted writes are not made again. -/
def deferRule (patience : Nat) : DeferRule where
  delivery := ⟨.bare .writeZero, false⟩
  patience
  endsOnTeardown := true

/-- The coding as its decoder sees it. -/
def coding : Transducer := format.transducer

/-- Stored blocks may stand wherever a block begins. -/
def settle : coding.State → Option coding.State :=
  Format.settled fun
    | .head => true
    | .symbols _ _ => false

/-- The coding for a compression level as its encoder sees it. Level zero only stores. -/
def packer (level : Nat) : Packer :=
  if level = 0 then storing
  else .verified coding settle (compressing (.ofLevel level)) storing

/-- The encoding layer for a compression level. -/
def encoder (patience level : Nat) : Encoder := (packer level).encoder (deferRule patience)

/-- The encoding layer before its first call. -/
def fresh (patience level : Nat) : (encoder patience level).State :=
  .fresh (packer level) (deferRule patience)

/-- The decoding layer. -/
def decoder (patience : Nat) : Decoder := coding.decoder (readRule _ patience)

end ContentCoding.Deflate
