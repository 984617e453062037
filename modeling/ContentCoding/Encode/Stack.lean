import ContentCoding.Encode.Layer
import ContentCoding.Encode.Outlet

/-!
# Stacks of encoding layers

`writer` is how a stack over an outlet answers writes and flushes: the top layer
runs, and its calls go to the stack below it. Factories, finalizing layers and
layers that are destroyed call the stack below in the same way.
-/

namespace ContentCoding

/-- Encoding layers, the last one constructed on top. -/
abbrev EncoderStack : Nat → Type 1 := Stack Encoder.State

/-- A chain of encoding layers. -/
abbrev EncoderChain : Type 1 := Chain Encoder.State

/-- What the names of encoding layers stand for. -/
abbrev EncoderRegistry := Registry EncoderFactory

variable {σ : Type} [Sink σ]

namespace EncoderStack

/-- How a stack over an outlet answers calls. -/
def writer : (depth : Nat) → Writer (EncoderStack depth × Outlet σ)
  | 0 =>
    { write := fun (stack, outlet) bytes =>
        let (answer, outlet) := outlet.write bytes
        (answer, stack, outlet)
      flush := fun (stack, outlet) =>
        let (answer, outlet) := outlet.flush
        (answer, stack, outlet)
      remark := fun (stack, outlet) text => (stack, outlet.remark text) }
  | depth + 1 =>
    { write := fun (.layer name encoder state below, outlet) bytes =>
        let ((answer, state), below, outlet) :=
          (encoder.write state bytes).run (writer depth) (below, outlet)
        (answer, .layer name encoder state below, outlet)
      flush := fun (.layer name encoder state below, outlet) =>
        let ((answer, state), below, outlet) :=
          (encoder.flush state).run (writer depth) (below, outlet)
        (answer, .layer name encoder state below, outlet)
      remark := fun (stack, outlet) text => (stack, outlet.remark text) }

end EncoderStack

instance : Medium Encoder.State EncoderFactory (Outlet σ) where
  construct factory stack outlet := factory.run (EncoderStack.writer _) (stack, outlet)
  finalize encoder state below outlet :=
    (encoder.finalize state).run (EncoderStack.writer _) (below, outlet)
  teardown encoder state below outlet :=
    ((encoder.teardown state).run (EncoderStack.writer _) (below, outlet)).2

namespace EncoderChain

/-- Write to the top of a chain. -/
def write (bytes : Bytes) : EncoderChain → Outlet σ →
    Except Fault Nat × EncoderChain × Outlet σ
  | ⟨depth, stack, names⟩, outlet =>
    let (answer, stack, outlet) := (EncoderStack.writer depth).write (stack, outlet) bytes
    (answer, ⟨depth, stack, names⟩, outlet)

/-- Flush through every layer of a chain. -/
def flush : EncoderChain → Outlet σ → Except Fault Unit × EncoderChain × Outlet σ
  | ⟨depth, stack, names⟩, outlet =>
    let (answer, stack, outlet) := (EncoderStack.writer depth).flush (stack, outlet)
    (answer, ⟨depth, stack, names⟩, outlet)

end EncoderChain

end ContentCoding
