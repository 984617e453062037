import ContentCoding.Decode.Stack

/-!
# Streaming decompressors

A decompressor drives an ordered chain of decoding layers over a caller's
source. It takes the same order as the compressor that made the stream. The
chain is built by the first read, or by `init`, and a decompressor that was
never read from is closed without being built.
-/

namespace ContentCoding

/-- A decompressor over a source that it gives back at any time. -/
structure Decompressor (σ : Type) : Type 1 where
  /-- The order as requested, blanks included. -/
  order : List String
  /-- What the names of the order stand for. -/
  registry : DecoderRegistry
  /-- The keeper of the chain. -/
  guard : InitGuard (DecoderStack 0) DecoderChain
  /-- The source with the totals and the journal. -/
  inlet : Inlet σ

namespace Decompressor

variable {σ : Type} [Source σ]

/-- A decompressor that has not built its chain. -/
def create (source : σ) (registry : DecoderRegistry) (order : List String) : Decompressor σ :=
  ⟨order, registry, .start .bottom, { source }⟩

/-- Build the chain of an order. Once it stands the number of layers is recorded. -/
def construct (registry : DecoderRegistry) (order : List String) (base : DecoderStack 0)
    (inlet : Inlet σ) : Building DecoderChain × Inlet σ :=
  match Chain.build registry order base inlet with
  | (.built chain, inlet) =>
    (.built chain, { inlet with counters := inlet.counters.setLayers chain.names.length })
  | unbuilt => unbuilt

/-- Build the chain if that has not been tried yet, and tell what came of it. -/
def init : Decompressor σ → Outcome PipelineError Unit × Decompressor σ
  | ⟨order, registry, guard, inlet⟩ =>
    let (answer, guard, inlet) := guard.initWith (construct registry order) inlet
    (answer, ⟨order, registry, guard, inlet⟩)

/-- A decompressor whose chain has been built, or the error of building it. -/
def openOn (source : σ) (registry : DecoderRegistry) (order : List String) :
    Outcome PipelineError Unit × Decompressor σ :=
  (create source registry order).init

/-- Read from the top of the chain, and count what it gives. -/
def readBuilt (room : Nat) : Decompressor σ → Except Fault Bytes × Decompressor σ
  | ⟨order, registry, guard, inlet⟩ =>
    match guard.useBuilt (DecoderChain.read room) inlet with
    | (.ok answer, guard, inlet) => (answer, ⟨order, registry, guard, inlet.credit answer⟩)
    | (.error error, guard, inlet) => (.error error.toFault, ⟨order, registry, guard, inlet⟩)

/-- Give at most so many plaintext bytes, building the chain first if need be. No
bytes, where there was room for some, is the end of the stream. -/
def read (decompressor : Decompressor σ) (room : Nat) : Outcome Fault Bytes × Decompressor σ :=
  match decompressor.init with
  | (.done (), decompressor) =>
    let (answer, decompressor) := decompressor.readBuilt room
    (.ofExcept answer, decompressor)
  | (.failed error, decompressor) => (.failed error.toFault, decompressor)
  | (.crashed, decompressor) => (.crashed, decompressor)

/-- Read until so many bytes are there, the stream ends or a read fails, within a
given number of reads. Interrupted reads are made again. The pieces read so far
are passed along, last one first. -/
def readFor : (attempts : Nat) → Decompressor σ → (wanted : Nat) → List Bytes →
    Outcome Fault Bytes × Decompressor σ
  | _, decompressor, 0, pieces => (.done pieces.reverse.flatten, decompressor)
  | 0, decompressor, _, _ => (.failed (.bare .interrupted), decompressor)
  | attempts + 1, decompressor, wanted, pieces =>
    match decompressor.read wanted with
    | (.done [], decompressor) => (.done pieces.reverse.flatten, decompressor)
    | (.done bytes, decompressor) =>
      readFor attempts decompressor (wanted - bytes.length) (bytes :: pieces)
    | (.failed fault, decompressor) =>
      if fault.isInterruption then readFor attempts decompressor wanted pieces
      else (.failed fault, decompressor)
    | (.crashed, decompressor) => (.crashed, decompressor)

/-- Read until so many bytes are there, the stream ends or a read fails. -/
def readUpTo (attempts : Nat) (decompressor : Decompressor σ) (wanted : Nat) :
    Outcome Fault Bytes × Decompressor σ :=
  readFor attempts decompressor wanted []

/-- Read to the end of the stream, with reads of given sizes and within a given
number of them. Interrupted reads are made again. The pieces read so far are passed
along, last one first. -/
def readToEndFor : (attempts : Nat) → ReadSizes → Decompressor σ → List Bytes →
    Outcome Fault Bytes × Decompressor σ
  | 0, _, decompressor, _ => (.failed (.bare .interrupted), decompressor)
  | attempts + 1, sizes, decompressor, pieces =>
    match decompressor.read sizes.next with
    | (.done [], decompressor) => (.done pieces.reverse.flatten, decompressor)
    | (.done bytes, decompressor) =>
      readToEndFor attempts (sizes.after bytes.length) decompressor (bytes :: pieces)
    | (.failed fault, decompressor) =>
      if fault.isInterruption then readToEndFor attempts sizes decompressor pieces
      else (.failed fault, decompressor)
    | (.crashed, decompressor) => (.crashed, decompressor)

/-- Read to the end of the stream, with reads of given sizes. -/
def readToEnd (attempts : Nat) (sizes : ReadSizes) (decompressor : Decompressor σ) :
    Outcome Fault Bytes × Decompressor σ :=
  readToEndFor attempts sizes decompressor []

/-- Everything that can be read before the stream ends or a read fails for good,
with reads of given sizes and within a given number of them. The pieces read so far
are passed along, last one first. -/
def salvageFor : (attempts : Nat) → ReadSizes → Decompressor σ → List Bytes → Bytes
  | 0, _, _, pieces => pieces.reverse.flatten
  | attempts + 1, sizes, decompressor, pieces =>
    match decompressor.read sizes.next with
    | (.done [], _) => pieces.reverse.flatten
    | (.done bytes, decompressor) =>
      salvageFor attempts (sizes.after bytes.length) decompressor (bytes :: pieces)
    | (.failed fault, decompressor) =>
      if fault.isInterruption then salvageFor attempts sizes decompressor pieces
      else pieces.reverse.flatten
    | (.crashed, _) => pieces.reverse.flatten

/-- Everything that can be read before the stream ends or a read fails for good. -/
def salvage (attempts : Nat) (sizes : ReadSizes) (decompressor : Decompressor σ) : Bytes :=
  salvageFor attempts sizes decompressor []

/-- Finalize every layer, last constructed first. There is nothing to finalize
without a chain. The source itself is never closed, and closing again does nothing. -/
def close : Decompressor σ → Except PipelineError Unit × Decompressor σ
  | ⟨order, registry, guard, inlet⟩ =>
    match guard.close with
    | (none, guard) => (.ok (), ⟨order, registry, guard, inlet⟩)
    | (some chain, guard) =>
      let (result, chain, inlet) := chain.finalizeAll inlet
      (result, ⟨order, registry, guard, chain.teardown inlet⟩)

/-- Number of layers, while the chain stands. -/
def layerCount (decompressor : Decompressor σ) : Option Nat :=
  decompressor.guard.withBuilt fun chain => chain.names.length

/-- Names of the layers by construction index, while the chain stands. -/
def layerNames (decompressor : Decompressor σ) : Option (List String) :=
  decompressor.guard.withBuilt Chain.names

/-- The totals so far. -/
def snapshot (decompressor : Decompressor σ) : Snapshot :=
  decompressor.inlet.counters.snapshot

end Decompressor

end ContentCoding
