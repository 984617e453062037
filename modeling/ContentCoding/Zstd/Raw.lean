import ContentCoding.Encode.Packer
import ContentCoding.Zstd.Frame

/-!
# Zstd frames without compression

Any byte string is a frame once it is cut into raw blocks.
-/

namespace ContentCoding.Zstd

/-- The header of a raw block. -/
def rawHeader (last : Bool) (size : Nat) : Bytes :=
  Bytes.littleEndian 3 (size * 8 + if last then 1 else 0)

/-- Raw blocks for a byte string, none of them the last. -/
def rawBlocks (data : Bytes) : Bytes :=
  if _h : data = [] then []
  else
    rawHeader false (data.take maxBlock).length ++ data.take maxBlock ++
      rawBlocks (data.drop maxBlock)
termination_by data.length
decreasing_by
  have : 0 < data.length := List.length_pos_iff.mpr _h
  rw [List.length_drop, maxBlock]
  omega

/-- The end of a frame: an empty last block. -/
def lastBlock : Bytes := rawHeader true 0

/-- A header that says nothing but the size of the window, 128 KiB. -/
def rawOpening : Bytes := magic ++ [0, 0x38]

/-- Whether raw blocks of every length may come next, and the frame may end behind any of them. -/
def FrameState.takesRaw (state : FrameState) : Bool :=
  match state.way with
  | .inPieces =>
    state.limit = maxBlock && state.contentSize.isNone && !state.hasChecksum &&
      state.ring.used + maxBlock ≤ state.ring.size
  | .either _ _ => false

/-- Frames in raw blocks. -/
def storing : Packer :=
  Packer.wrap rawOpening (fun _ => [])
    { State := Array UInt8
      start := #[]
      take := fun held bytes => held.appendList bytes
      flush := fun held => (rawBlocks held.toList, #[])
      finish := fun held => rawBlocks held.toList ++ lastBlock }

end ContentCoding.Zstd
