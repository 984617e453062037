import ContentCoding.Stack
import ContentCoding.Stream.Push

/-!
# Encoding layers

An `Encoder` is one kind of layer on the write side: a state, and what the
layer does to the writer it wraps when it is written to, flushed, finalized or
destroyed. The type is open. A caller's own layers and the built-in codings are
values of it alike.

Finalizing is a capability. A layer without it is passed over when a pipeline
is closed, and so is never mistaken for one whose trailer went out.
-/

namespace ContentCoding

/-- One kind of write-side layer. -/
structure Encoder : Type 1 where
  /-- What the layer remembers between calls. -/
  State : Type
  /-- Take bytes. The result is how many were taken. -/
  write : State → Bytes → Push (Except Fault Nat × State)
  /-- Hand on what is held, without ending the stream. -/
  flush : State → Push (Except Fault Unit × State)
  /-- Whether there is anything to finalize. -/
  finalizes : State → Bool := fun _ => false
  /-- Write the trailing bytes into the writer below, which is left open. -/
  finalize : State → Push (Except Fault Unit × State) := fun state => .done (.ok (), state)
  /-- Whether the layer below can be reached through this one. -/
  exposes : State → Bool := fun _ => true
  /-- What the layer still does to the writer below when it is destroyed. -/
  teardown : State → Push Unit := fun _ => .done ()

instance : LayerKind Encoder.State := ⟨Encoder.finalizes, Encoder.exposes⟩

/-- Makes a layer around the stack built so far, which it may already call. -/
abbrev EncoderFactory := Push (Construction Encoder.State)

/-- The factory of a layer that is always made, starting in a given state. -/
def EncoderFactory.always (encoder : Encoder) (state : encoder.State) : EncoderFactory :=
  .done (.built encoder state)

/-- The factory that always reports one fault. -/
def EncoderFactory.refusing (fault : Fault) : EncoderFactory := .done (.refused fault)

/-- Forward a write and report what the writer below took. -/
def Push.forwardWrite {S : Type} (state : S) (bytes : Bytes) : Push (Except Fault Nat × S) :=
  .write bytes fun answer => .done (answer, state)

/-- Forward a flush. -/
def Push.forwardFlush {S : Type} (state : S) : Push (Except Fault Unit × S) :=
  .flush fun answer => .done (answer, state)

end ContentCoding
