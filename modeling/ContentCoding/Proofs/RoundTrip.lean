import ContentCoding.Proofs.Lzw.Layer

/-!
# Peeling and round trip

The main statement is about chains of codecs. What a chain of encoders puts out
can be peeled by a chain of decoders for any number of the outer names, and what
remains is what the inner names alone would have put out; peeling all names
leaves the data. Layers that do nothing and the LZW layers are known to be codecs,
and of all others that is assumed.
-/

namespace ContentCoding

variable {encoders : EncoderRegistry} {decoders : DecoderRegistry}

/-- From a source that holds certain bytes a new decompressor delivers certain data, whatever
pieces the source hands out and whatever rooms the data are read with. -/
def Decompresses (decoders : DecoderRegistry) (order : List String) (encoded data : Bytes) : Prop :=
  ∀ {σ : Type} [Source σ] (holds : σ → Bytes → Prop), Source.Supplies holds → ∀ source,
    holds source encoded → ∀ rooms, (∀ room ∈ rooms, 1 ≤ room) →
      Decompressor.Delivers rooms (Decompressor.create source decoders order) data

/-- Reading to the end gives the data, with reads of any sizes, one for each byte and one for the
end. -/
theorem Decompresses.readToEnd {order : List String} {encoded data : Bytes}
    (h : Decompresses decoders order encoded data) {σ : Type} [Source σ] {holds : σ → Bytes → Prop}
    (hs : Source.Supplies holds) {source : σ} (hsource : holds source encoded) {attempts : Nat}
    (hattempts : data.length < attempts) (sizes : ReadSizes) :
    ((Decompressor.create source decoders order).readToEnd attempts sizes).1 = .done data :=
  Decompressor.readToEndFor_of_delivers sizes (h holds hs source hsource) hattempts

/-- Whatever a sink takes at a time, a new compressor over it takes a script and is closed without
an error, and the sink then holds certain bytes. -/
def Compresses (encoders : EncoderRegistry) (order : List String) (script : List Feed)
    (total : Bytes) : Prop :=
  ∀ {σ : Type} [Sink σ] (received : σ → Bytes → Prop), Sink.Collects received → ∀ sink,
    received sink [] → ∀ patience,
      (Compressor.create sink encoders order).Compresses received patience script total

end ContentCoding
