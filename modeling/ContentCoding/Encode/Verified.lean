import ContentCoding.Decode.Format
import ContentCoding.Encode.Packer

/-!
# Encoders whose output is checked

An encoder that makes streams small is a piece of search, and nothing about it needs to
be trusted: before its output goes out it is decoded, and the result compared with what
was taken. If they differ, a plain encoder takes over for good, which only copies. So a
checked stream decodes to its data whatever the search does, as long as plain output
does, wherever it may begin.
-/

namespace ContentCoding

namespace Transducer

/-- Feed bytes that do not end the stream. The output is passed along reversed, and given
with the state after them. -/
def through (coding : Transducer) :
    coding.State → Bytes → (output : Bytes) → Option (Bytes × coding.State)
  | state, [], output => some (output.reverse, state)
  | state, byte :: rest, output =>
    match coding.feed state byte with
    | .running more state => coding.through state rest (more.reverseAux output)
    | .finished _ => none
    | .failed _ => none

/-- Feed bytes with which the stream ends, none of which come after its end. The output is
passed along reversed. -/
def toEnd (coding : Transducer) : coding.State → Bytes → (output : Bytes) → Option Bytes
  | state, [], output =>
    match coding.ending state with
    | .ok () => some output.reverse
    | .error _ => none
  | state, byte :: rest, output =>
    match coding.feed state byte with
    | .running more state => coding.toEnd state rest (more.reverseAux output)
    | .finished more => if rest.isEmpty then some (more.reverseAux output).reverse else none
    | .failed _ => none

end Transducer

/-- The place before a unit, if a position is there and the unit is an acceptable one. -/
def Format.settled {format : Format} (accepts : format.Mode → Bool) :
    Format.Position format → Option (Format.Position format)
  | ⟨mode, begun, _, history⟩ =>
    if accepts mode && !begun then some (Format.before mode history) else none

namespace Packer

/-- The state of a checked packer. -/
structure Verified (S P Q : Type) where
  /-- How the decoder stands after all output, and the packer that makes streams small, as
  long as its output has been right. -/
  dense : Option (S × P)
  /-- The plain packer. -/
  plain : Q
  /-- What was taken since the last output. -/
  held : Array UInt8 := #[]

/-- The output of a packer that makes streams small, with the state of its decoder, if it
decodes to what was taken and plain output may follow. If there is none, nothing has
changed. -/
def confirmed (coding : Transducer) (settle : coding.State → Option coding.State)
    (dense : Packer) (state : coding.State) (packing : dense.State) (held : Bytes) :
    Option (Bytes × coding.State × dense.State) :=
  match dense.flush packing with
  | ([], packing) => if held.isEmpty then some ([], state, packing) else none
  | (output, packing) =>
    match coding.through state output [] with
    | some (decoded, state) =>
      if decoded = held then (settle state).map fun state => (output, state, packing) else none
    | none => none

/-- The last output of a packer that makes streams small, if it decodes to what was taken. -/
def confirmedEnd (coding : Transducer) (dense : Packer) (state : coding.State)
    (packing : dense.State) (held : Bytes) : Option Bytes :=
  let output := dense.finish packing
  match coding.toEnd state output [] with
  | some decoded => if decoded = held then some output else none
  | none => none

/-- A packer that makes streams small, with a plain one to fall back on. -/
def verified (coding : Transducer) (settle : coding.State → Option coding.State)
    (dense plain : Packer) : Packer where
  State := Verified coding.State dense.State plain.State
  start := { dense := some (coding.start, dense.start), plain := plain.start }
  take
    | ⟨smaller, packing, held⟩, bytes =>
      ⟨smaller.map fun (state, packing) => (state, dense.take packing bytes),
        plain.take packing bytes, held.appendList bytes⟩
  flush
    | ⟨smaller, packing, held⟩ =>
      match smaller.bind fun (state, packing) =>
          confirmed coding settle dense state packing held.toList with
      | some ([], checked) => ([], ⟨some checked, packing, held⟩)
      | some (output, checked) => (output, ⟨some checked, (plain.flush packing).2, #[]⟩)
      | none =>
        let (output, packing) := plain.flush packing
        (output, ⟨none, packing, #[]⟩)
  finish
    | ⟨smaller, packing, held⟩ =>
      match smaller.bind fun (state, packing) =>
          confirmedEnd coding dense state packing held.toList with
      | some output => output
      | none => plain.finish packing

end Packer

end ContentCoding
