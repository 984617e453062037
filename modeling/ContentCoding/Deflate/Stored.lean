import ContentCoding.Encode.Packer

/-!
# Deflate data without compression

Any byte string is deflate data once it is cut into stored blocks: a byte that
says whether the block is the last, the number of bytes, the complement of that
number, and the bytes as they are.
-/

namespace ContentCoding.Deflate

/-- The most bytes that a stored block holds. -/
def maxStored : Nat := 65535

/-- One stored block. -/
def storedBlock (last : Bool) (data : Bytes) : Bytes :=
  (if last then 1 else 0) :: Bytes.littleEndian 2 data.length ++
    Bytes.littleEndian 2 (maxStored - data.length) ++ data

/-- Stored blocks for a byte string, none of them the last. -/
def storedBlocks (data : Bytes) : Bytes :=
  if _h : data = [] then []
  else storedBlock false (data.take maxStored) ++ storedBlocks (data.drop maxStored)
termination_by data.length
decreasing_by
  have : 0 < data.length := List.length_pos_iff.mpr _h
  rw [List.length_drop, maxStored]
  omega

/-- The end of deflate data: an empty last block. -/
def lastBlock : Bytes := storedBlock true []

/-- Deflate data in stored blocks. -/
def storing : Packer where
  State := Array UInt8
  start := #[]
  take held bytes := held.appendList bytes
  flush held := (storedBlocks held.toList, #[])
  finish held := storedBlocks held.toList ++ lastBlock

end ContentCoding.Deflate
