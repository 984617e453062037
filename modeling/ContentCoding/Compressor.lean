import ContentCoding.Encode.Stack

/-!
# Streaming compressors

A compressor drives an ordered chain of encoding layers over a caller's sink.
The first name of the order is the outermost coding: plaintext enters at the
layer constructed last and leaves at the one constructed first. Blank names are
passed over and never become layers.

The chain is built by the first write, or by `init`. The outlet is attached
exactly while the chain stands, so the sink sees nothing of construction, of a
failed construction, or of what layers do when they are destroyed after a close.
-/

namespace ContentCoding

/-- A compressor over a sink that it gives back at any time. -/
structure Compressor (σ : Type) : Type 1 where
  /-- The order as requested, blanks included. -/
  order : List String
  /-- What the names of the order stand for. -/
  registry : EncoderRegistry
  /-- The keeper of the chain. -/
  guard : InitGuard (EncoderStack 0) EncoderChain
  /-- The sink with the totals and the journal. -/
  outlet : Outlet σ

namespace Compressor

variable {σ : Type} [Sink σ]

/-- A compressor that has not built its chain. -/
def create (sink : σ) (registry : EncoderRegistry) (order : List String) : Compressor σ :=
  ⟨order, registry, .start .bottom, { sink }⟩

/-- Build the chain of an order. Once it stands the sink is attached and the number of
layers is recorded. -/
def construct (registry : EncoderRegistry) (order : List String) (base : EncoderStack 0)
    (outlet : Outlet σ) : Building EncoderChain × Outlet σ :=
  match Chain.build registry order base outlet with
  | (.built chain, outlet) =>
    (.built chain,
      { outlet with
        attached := true
        counters := outlet.counters.setLayers chain.names.length })
  | unbuilt => unbuilt

/-- Build the chain if that has not been tried yet, and tell what came of it. -/
def init : Compressor σ → Outcome PipelineError Unit × Compressor σ
  | ⟨order, registry, guard, outlet⟩ =>
    let (answer, guard, outlet) := guard.initWith (construct registry order) outlet
    (answer, ⟨order, registry, guard, outlet⟩)

/-- A compressor whose chain has been built, or the error of building it. -/
def openOn (sink : σ) (registry : EncoderRegistry) (order : List String) :
    Outcome PipelineError Unit × Compressor σ :=
  (create sink registry order).init

/-- Write to the top of the chain, and count what it takes. -/
def writeBuilt (bytes : Bytes) : Compressor σ → Except Fault Nat × Compressor σ
  | ⟨order, registry, guard, outlet⟩ =>
    match guard.useBuilt (EncoderChain.write bytes) outlet with
    | (.ok answer, guard, outlet) => (answer, ⟨order, registry, guard, outlet.credit answer⟩)
    | (.error error, guard, outlet) => (.error error.toFault, ⟨order, registry, guard, outlet⟩)

/-- Take plaintext, building the chain first if need be. The result is how many
bytes were taken. -/
def write (compressor : Compressor σ) (bytes : Bytes) : Outcome Fault Nat × Compressor σ :=
  match compressor.init with
  | (.done (), compressor) =>
    let (answer, compressor) := compressor.writeBuilt bytes
    (.ofExcept answer, compressor)
  | (.failed error, compressor) => (.failed error.toFault, compressor)
  | (.crashed, compressor) => (.crashed, compressor)

/-- Flush through every layer. A compressor without a chain has nothing to flush. -/
def flush : Compressor σ → Except Fault Unit × Compressor σ
  | ⟨order, registry, guard, outlet⟩ =>
    if guard.isBuilt then
      match guard.useBuilt EncoderChain.flush outlet with
      | (.ok answer, guard, outlet) => (answer, ⟨order, registry, guard, outlet⟩)
      | (.error error, guard, outlet) => (.error error.toFault, ⟨order, registry, guard, outlet⟩)
    else (.ok (), ⟨order, registry, guard, outlet⟩)

/-- Write all of the bytes within a given number of writes. -/
def writeAllFor : (attempts : Nat) → Compressor σ → Bytes → Outcome Fault Unit × Compressor σ
  | _, compressor, [] => (.done (), compressor)
  | 0, compressor, _ => (.failed (.bare .interrupted), compressor)
  | attempts + 1, compressor, bytes =>
    match compressor.write bytes with
    | (.done 0, compressor) => (.failed Push.DeliveryRule.complete.refusal, compressor)
    | (.done taken, compressor) => writeAllFor attempts compressor (bytes.drop taken)
    | (.failed fault, compressor) =>
      if fault.isInterruption then writeAllFor attempts compressor bytes
      else (.failed fault, compressor)
    | (.crashed, compressor) => (.crashed, compressor)

/-- Write all of the bytes, putting up with `patience` interruptions. Nothing is
done for an empty input. -/
def writeAll (patience : Nat) (compressor : Compressor σ) (bytes : Bytes) :
    Outcome Fault Unit × Compressor σ :=
  writeAllFor (bytes.length + patience) compressor bytes

/-- Take the chain out of the guard and finalize it, detach the sink and destroy the
layers. Without a chain there is nothing to do but to close the guard. -/
def finish : Compressor σ → Except PipelineError Unit × Compressor σ
  | ⟨order, registry, guard, outlet⟩ =>
    match guard.close with
    | (none, guard) => (.ok (), ⟨order, registry, guard, outlet⟩)
    | (some chain, guard) =>
      let (result, chain, outlet) := chain.finalizeAll outlet
      let outlet := chain.teardown { outlet with attached := false }
      (result, ⟨order, registry, guard, outlet⟩)

/-- Finalize every layer, last constructed first. A compressor that was never
written to is built first, so that the sink holds a complete empty stream. The
sink itself is never closed, and closing again does nothing. -/
def close (compressor : Compressor σ) : Outcome PipelineError Unit × Compressor σ :=
  let (built, compressor) :=
    if compressor.guard.isUnbuilt then compressor.init else (.done (), compressor)
  match built with
  | .done () =>
    let (result, compressor) := compressor.finish
    (.ofExcept result, compressor)
  | .failed error => (.failed error, { compressor with guard := compressor.guard.close.2 })
  | .crashed => (.crashed, compressor)

/-- Give the sink up. A chain that was not closed is destroyed while the sink is
still attached. -/
def abandon : Compressor σ → Outlet σ
  | ⟨_, _, ⟨_, _, .built chain⟩, outlet⟩ => chain.teardown outlet
  | ⟨_, _, _, outlet⟩ => outlet

/-- Number of layers, while the chain stands. -/
def layerCount (compressor : Compressor σ) : Option Nat :=
  compressor.guard.withBuilt fun chain => chain.names.length

/-- Names of the layers by construction index, while the chain stands. -/
def layerNames (compressor : Compressor σ) : Option (List String) :=
  compressor.guard.withBuilt Chain.names

/-- The totals so far. -/
def snapshot (compressor : Compressor σ) : Snapshot := compressor.outlet.counters.snapshot

end Compressor

end ContentCoding
