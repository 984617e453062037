import ContentCoding.Stack
import ContentCoding.Stream.Pull

/-!
# Decoding layers

A `Decoder` is one kind of layer on the read side: a state, and what the layer
does to the reader it wraps when it is read from or finalized. As on the write
side the type is open, finalizing is a capability, and finalizing a layer never
finalizes the one below.
-/

namespace ContentCoding

/-- One kind of read-side layer. -/
structure Decoder : Type 1 where
  /-- What the layer remembers between calls. -/
  State : Type
  /-- Give at most so many decoded bytes. -/
  read : State → Nat → Pull (Except Fault Bytes × State)
  /-- Whether there is anything to finalize. -/
  finalizes : State → Bool := fun _ => false
  /-- Release what the layer holds. -/
  finalize : State → Pull (Except Fault Unit × State) := fun state => .done (.ok (), state)
  /-- Whether the layer below can be reached through this one. -/
  exposes : State → Bool := fun _ => true

instance : LayerKind Decoder.State := ⟨Decoder.finalizes, Decoder.exposes⟩

/-- Makes a layer around the stack built so far, which it may already read. -/
abbrev DecoderFactory := Pull (Construction Decoder.State)

/-- The factory of a layer that is always made, starting in a given state. -/
def DecoderFactory.always (decoder : Decoder) (state : decoder.State) : DecoderFactory :=
  .done (.built decoder state)

/-- The factory that always reports one fault. -/
def DecoderFactory.refusing (fault : Fault) : DecoderFactory := .done (.refused fault)

/-- Forward a read. -/
def Pull.forwardRead {S : Type} (state : S) (room : Nat) : Pull (Except Fault Bytes × S) :=
  .read room fun answer => .done (answer, state)

end ContentCoding
