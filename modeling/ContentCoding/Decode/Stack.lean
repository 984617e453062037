import ContentCoding.Decode.Layer
import ContentCoding.Decode.Inlet

/-!
# Stacks of decoding layers

The read-side counterpart of an encoding stack. The order is the one in which
the codings were applied, so the layer constructed first decodes the outermost
coding and reads from the source. Decoding layers do nothing when they are
destroyed.
-/

namespace ContentCoding

/-- Decoding layers, the last one constructed on top. -/
abbrev DecoderStack : Nat → Type 1 := Stack Decoder.State

/-- A chain of decoding layers. -/
abbrev DecoderChain : Type 1 := Chain Decoder.State

/-- What the names of decoding layers stand for. -/
abbrev DecoderRegistry := Registry DecoderFactory

variable {σ : Type} [Source σ]

namespace DecoderStack

/-- How a stack over an inlet answers reads. -/
def reader : (depth : Nat) → Reader (DecoderStack depth × Inlet σ)
  | 0 =>
    { read := fun (stack, inlet) room =>
        let (answer, inlet) := inlet.read room
        (answer, stack, inlet)
      remark := fun (stack, inlet) text => (stack, inlet.remark text) }
  | depth + 1 =>
    { read := fun (.layer name decoder state below, inlet) room =>
        let ((answer, state), below, inlet) :=
          (decoder.read state room).run (reader depth) (below, inlet)
        (answer, .layer name decoder state below, inlet)
      remark := fun (stack, inlet) text => (stack, inlet.remark text) }

end DecoderStack

instance : Medium Decoder.State DecoderFactory (Inlet σ) where
  construct factory stack inlet := factory.run (DecoderStack.reader _) (stack, inlet)
  finalize decoder state below inlet :=
    (decoder.finalize state).run (DecoderStack.reader _) (below, inlet)
  teardown _ _ below inlet := (below, inlet)

/-- Read from the top of a chain. -/
def DecoderChain.read (room : Nat) : DecoderChain → Inlet σ →
    Except Fault Bytes × DecoderChain × Inlet σ
  | ⟨depth, stack, names⟩, inlet =>
    let (answer, stack, inlet) := (DecoderStack.reader depth).read (stack, inlet) room
    (answer, ⟨depth, stack, names⟩, inlet)

end ContentCoding
