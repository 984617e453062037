import ContentCoding.Amount
import ContentCoding.Brotli.Stream
import ContentCoding.Encode.BitField
import ContentCoding.Encode.Packer

/-!
# Brotli streams without compression

Any byte string is a stream once it is cut into meta-blocks that hold bytes as they are.
An empty piece of metadata after the size of the window makes every meta-block begin with
a whole byte.
-/

namespace ContentCoding.Brotli

/-- How the size of the window is written, given its logarithm. -/
def windowField (window : Nat) : BitField :=
  if window = 16 then ⟨1, 0⟩
  else if window = 17 then ⟨7, 1⟩
  else if window < 17 then ⟨7, (window - 8) * 16 + 1⟩
  else ⟨4, (window - 17) * 2 + 1⟩

/-- An empty piece of metadata, up to the end of its byte. -/
def emptyMetadata : BitField := ⟨6, 6⟩

/-- The size of the window, filled up to whole bytes. -/
def rawOpening (window : Nat) : Bytes :=
  ((({} : BitWriter).add (windowField window)).add emptyMetadata).align.bytes.toList

/-- The most bytes that a meta-block holds here. -/
def maxRaw : Nat := 65536

/-- A meta-block that holds bytes as they are. -/
def rawMetaBlock (data : Bytes) : Bytes :=
  Bytes.littleEndian 3 ((data.length - 1) * 8 + twoTo 19) ++ data

/-- Meta-blocks for a byte string. -/
def rawMetaBlocks (data : Bytes) : Bytes :=
  if _h : data = [] then [] else rawMetaBlock (data.take maxRaw) ++ rawMetaBlocks (data.drop maxRaw)
termination_by data.length
decreasing_by
  have : 0 < data.length := List.length_pos_iff.mpr _h
  rw [List.length_drop, maxRaw]
  omega

/-- An empty last meta-block. -/
def lastMetaBlock : Bytes := [3]

/-- Streams of bytes as they are. -/
def storing (window : Nat) : Packer :=
  Packer.wrap (rawOpening window) (fun _ => [])
    { State := Array UInt8
      start := #[]
      take := fun held bytes => held.appendList bytes
      flush := fun held => (rawMetaBlocks held.toList, #[])
      finish := fun held => rawMetaBlocks held.toList ++ lastMetaBlock }

end ContentCoding.Brotli
