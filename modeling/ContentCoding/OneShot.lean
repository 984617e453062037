import ContentCoding.Compressor
import ContentCoding.Decompressor

/-!
# One-shot coding

Short payloads are coded in one call. Both functions drive the streaming types
from end to end, so the order of construction and of finalizing is theirs.

The budgets say how many interruptions, or how many reads, a call puts up with. The
sizes of the reads that decoding makes are given.
-/

namespace ContentCoding

/-- Encode data with every coding of an order. The first name ends up outermost. -/
def compress (patience : Nat) (registry : EncoderRegistry) (order : List String) (data : Bytes) :
    Outcome PipelineError Bytes :=
  match Compressor.openOn (#[] : Array UInt8) registry order with
  | (.failed error, _) => .failed error
  | (.crashed, _) => .crashed
  | (.done (), compressor) =>
    match compressor.writeAll patience data with
    | (.failed fault, _) => .failed fault.toPipelineError
    | (.crashed, _) => .crashed
    | (.done (), compressor) =>
      match compressor.close with
      | (.failed error, _) => .failed error
      | (.crashed, _) => .crashed
      | (.done (), compressor) => .done compressor.outlet.sink.toList

/-- Decode everything that a source hands out. The source is given back with the totals
and the journal. -/
def decompressFrom {σ : Type} [Source σ] (attempts : Nat) (sizes : ReadSizes)
    (registry : DecoderRegistry) (order : List String) (source : σ) :
    Outcome PipelineError Bytes × Inlet σ :=
  match Decompressor.openOn source registry order with
  | (.failed error, decompressor) => (.failed error, decompressor.inlet)
  | (.crashed, decompressor) => (.crashed, decompressor.inlet)
  | (.done (), decompressor) =>
    match decompressor.readToEnd attempts sizes with
    | (.failed fault, decompressor) => (.failed fault.toPipelineError, decompressor.inlet)
    | (.crashed, decompressor) => (.crashed, decompressor.inlet)
    | (.done bytes, decompressor) =>
      match decompressor.close with
      | (.error error, decompressor) => (.failed error, decompressor.inlet)
      | (.ok (), decompressor) => (.done bytes, decompressor.inlet)

/-- Decode data that was encoded with an order. -/
def decompress (attempts : Nat) (sizes : ReadSizes) (registry : DecoderRegistry)
    (order : List String) (data : Bytes) : Outcome PipelineError Bytes :=
  (decompressFrom attempts sizes registry order data).1

end ContentCoding
