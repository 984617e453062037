import ContentCoding.Encode.Packer

/-!
# Encoding as it goes

An `Engine` is what a coding does to plaintext if any call may put out a part of the
stream. What a call puts out comes in pieces, and each is to be handed on before the
next. If that fails the engine is left as it stands behind the piece, and the piece is
lost.

A packer is such an engine. It puts nothing out until it is flushed or finished, and
what comes then is cut into pieces of a fixed size. While some of them are left it takes
no plaintext.
-/

namespace ContentCoding

/-- What an engine puts out in one call. -/
inductive Emission (S : Type) : Type
  /-- There is no more for now. -/
  | done (engine : S)
  /-- The engine cannot do what it is asked. -/
  | stuck (engine : S)
  /-- A piece comes first. It goes with the engine as it stands behind that piece. -/
  | put (piece : Bytes) (engine : S) (later : Emission S)

/-- A coding that encodes as it goes. -/
structure Engine : Type 1 where
  /-- What is remembered between calls. -/
  State : Type
  /-- Nothing has been taken. -/
  start : State
  /-- Take plaintext. -/
  take : State → Bytes → Emission State
  /-- Put out all that was taken. -/
  flush : State → Emission State
  /-- End the stream. -/
  finish : State → Emission State

namespace Packer

/-- A packer with output that has not been put out. -/
structure Batch (S : Type) where
  /-- The packer. -/
  packing : S
  /-- The output that is left. -/
  waiting : Bytes := []

/-- Put out bytes in pieces of a given size, for at most a given number of pieces. -/
def cut {S : Type} (size : Nat) (packing : S) : (steps : Nat) → Bytes → Emission (Batch S)
  | _, [] => .done ⟨packing, []⟩
  | 0, output => .stuck ⟨packing, output⟩
  | steps + 1, output =>
    .put (output.take size) ⟨packing, output.drop size⟩
      (cut size packing steps (output.drop size))

/-- A packer whose output is cut into pieces of a given size. -/
def engine (packer : Packer) (size : Nat) : Engine where
  State := Batch packer.State
  start := { packing := packer.start }
  take
    | ⟨packing, waiting⟩, bytes =>
      if waiting.isEmpty || bytes.isEmpty then .done ⟨packer.take packing bytes, waiting⟩
      else .stuck ⟨packing, waiting⟩
  flush
    | ⟨packing, waiting⟩ =>
      let (output, packing) := packer.flush packing
      let output := waiting ++ output
      cut size packing output.length output
  finish
    | ⟨packing, waiting⟩ =>
      let output := waiting ++ packer.finish packing
      cut size packing output.length output

end Packer

end ContentCoding
