import ContentCoding.Builtin.Registry
import ContentCoding.Proofs.Buffering
import ContentCoding.Proofs.Lzw.Flow

/-!
# Decoding composes

Decoding in one go with the names of two orders, one behind the other, should come to
the same as decoding with the first and then decoding the result with the second, also
where it fails. It does if every layer makes one flow of the stream that it gets,
whatever pieces the stream comes in: the layers of the second order see the same stream
in both runs, and no more than its pieces differ.

Layers that do nothing are such layers, and so are those that recover their data. LZW
layers are only for streams in which no clear code follows another, and which do not
break behind an end code or a code that cannot occur. On other streams decoding does
not compose.
-/

namespace ContentCoding

/-- Layers that do nothing convert every stream into itself. -/
theorem Coding.identityDecoder_converts (source : Flow) :
    identityDecoder.Converts () (some source) source := by
  refine ⟨fun _ known flow => known = some flow, ?_, rfl⟩
  rintro state _ flow room hroom rfl
  exact ⟨hroom, fun answer after hhands => ⟨after, hhands, fun rest hrest => hrest⟩⟩

/-- The factory of layers that can always be finalized turns a stream as its layers do. -/
theorem DecoderFactory.turns_always {decoder : Decoder} {state : decoder.State}
    {source flow : Flow} (hr : decoder.Releases) (h : decoder.Converts state (some source) flow) :
    (always decoder state).Turns source flow :=
  ⟨decoder, state, rfl, hr, h⟩

/-- Buffered readers can always be finalized. -/
theorem Transducer.decoder_releases (coding : Transducer) (rule : ReadRule coding.State) :
    (coding.decoder rule).Releases :=
  fun _ => rfl

/-- The reader of a transducer turns a stream that yields data into the data. -/
theorem Transducer.Yields.turns {coding : Transducer} {rule : ReadRule coding.State}
    (hrule : rule.IsPlain) {limit : Nat} (hpatience : limit + 1 ≤ rule.patience)
    {encoded data : Bytes} (h : coding.Yields limit limit coding.start encoded data) :
    (DecoderFactory.always (coding.decoder rule) coding.fresh).Turns
      ⟨encoded, .closed⟩ ⟨data, .closed⟩ :=
  DecoderFactory.turns_always (coding.decoder_releases rule) (h.recovers hrule hpatience).converts

/-- What the layers that a registry has under a name make of a stream. -/
inductive Turning (registry : DecoderRegistry) (name : String) (source flow : Flow) : Prop
  /-- Layers that do nothing leave it as it is. -/
  | identity (made : registry.get? name = some (.always Coding.identityDecoder ()))
      (same : flow = source)
  /-- LZW layers unpack it. -/
  | compress {patience buffer : Nat} (patient : 3 ≤ patience) (roomy : 1 ≤ buffer)
      (made : registry.get? name = some (.always (Lzw.decoder patience buffer) {}))
      (turns : Lzw.Turns source flow)
  /-- Other layers make one flow of it, whatever pieces it comes in and whatever room there is. -/
  | other {factory : DecoderFactory} (made : registry.get? name = some factory)
      (turns : factory.Turns source flow)

variable {registry : DecoderRegistry}

/-- All of these turn a stream into a flow. -/
theorem Turning.turns {name : String} {source flow : Flow}
    (h : Turning registry name source flow) :
    ∃ factory, registry.get? name = some factory ∧ factory.Turns source flow := by
  cases h with
  | identity made same =>
    subst same
    exact ⟨_, made, DecoderFactory.turns_always (fun _ => rfl) (Coding.identityDecoder_converts _)⟩
  | compress patient roomy made turns =>
    exact ⟨_, made, DecoderFactory.turns_always (fun _ => rfl) (turns.converts patient roomy)⟩
  | other made turns => exact ⟨_, made, turns⟩

/-- What the layers of some names, the first of them lowest, make of a stream. -/
inductive Turned (registry : DecoderRegistry) : List String → Flow → Flow → Prop
  /-- Without layers it stays as it is. -/
  | nil {source : Flow} : Turned registry [] source source
  /-- The layers above turn what the lowest makes of it. -/
  | cons {name : String} {names : List String} {source between flow : Flow}
      (lowest : Turning registry name source between) (above : Turned registry names between flow) :
      Turned registry (name :: names) source flow

/-- They turn it together. -/
theorem Turned.turns {names : List String} {source flow : Flow}
    (h : Turned registry names source flow) : registry.Turns names source flow := by
  induction h with
  | nil => rfl
  | cons lowest above ih =>
    obtain ⟨factory, hfactory, hturns⟩ := lowest.turns
    exact ⟨_, factory, hfactory, hturns, ih⟩

variable {order outer inner : List String} {attempts : Nat} {sizes : ReadSizes}
variable {data between : Bytes} {flow : Flow}

/-- With enough reads one-shot decoding comes to what the last flow says. -/
theorem decompress_eq_outcome
    (h : registry.Turns (order.filter (· != "")) ⟨data, .closed⟩ flow)
    (henough : flow.bytes.length < attempts) :
    decompress attempts sizes registry order data = flow.outcome :=
  (decompress_of_turns h attempts sizes).resolve_right fun hfew =>
    absurd henough (Nat.not_lt.mpr hfew.1)

/-- If one-shot decoding succeeds, the last flow is the data. -/
theorem flow_of_decompress
    (h : registry.Turns (order.filter (· != "")) ⟨data, .closed⟩ flow)
    (hdone : decompress attempts sizes registry order data = .done between) :
    flow = ⟨between, .closed⟩ := by
  obtain ⟨bytes, ending⟩ := flow
  rcases decompress_of_turns h attempts sizes with hout | ⟨-, hfailed⟩
  · rw [hdone] at hout
    cases ending with
    | closed => cases hout; rfl
    | broken fault sudden lasting => cases hout
  · rw [hdone] at hfailed
    cases hfailed

/-- Decoding composes. If data are decoded with outer names, decoding them with all of the names
comes to the same as decoding the result with the inner ones, whether it succeeds or fails.
Blank names stand for nothing, and there are reads for every byte and for the end. -/
theorem decoding_composes
    (h : Turned registry ((outer ++ inner).filter (· != "")) ⟨data, .closed⟩ flow)
    (henough : flow.bytes.length < attempts)
    (houter : decompress attempts sizes registry outer data = .done between) :
    decompress attempts sizes registry (outer ++ inner) data =
      decompress attempts sizes registry inner between := by
  have hall := h.turns
  have hparts := hall
  rw [List.filter_append] at hparts
  obtain ⟨middle, hlower, hupper⟩ := DecoderRegistry.turns_append.mp hparts
  obtain rfl := flow_of_decompress hlower houter
  rw [decompress_eq_outcome hall henough, decompress_eq_outcome hupper henough]

open Lzw in
/-- A stored brotli stream in an LZW stream, with an LZW stream in it that is cut short. -/
theorem decoding_composes_to_truncated :
    let registry := DecoderRegistry.builtin 8
    let outer := ["compress"]
    let inner := ["", "br", "identity", "compress"]
    let data : Bytes := [0x00, 0x17, 0x04, 0x00, 0x04, 0x60, 0x10, 0x80, 0x01, 0x01, 0x01]
    let between : Bytes := [0x0B, 0x01, 0x80, 0x00, 0x83, 0x00, 0x03]
    ∀ sizes, decompress 8 sizes registry outer data = .done between ∧
      decompress 8 sizes registry (outer ++ inner) data =
        decompress 8 sizes registry inner between ∧
      decompress 8 sizes registry inner between = .failed (.stream truncated) := by
  intro registry outer inner data between sizes
  have hcompress : registry.get? "compress" = some (.always (decoder 8 4096) {}) := rfl
  have hlzw : ∀ {source flow : Flow}, Turns source flow →
      Turning registry "compress" source flow :=
    .compress (by decide) (by decide) hcompress
  have hwhole : Unpacking.unpack {} (BitQueue.join {} data) = ⟨between, none⟩ := by
    decide +kernel
  have hcut : Unpacking.unpack {} (BitQueue.join {} [0x00, 0x83, 0x00]) =
      ⟨[65], some truncated⟩ := by
    decide +kernel
  have hlower : Turns ⟨data, .closed⟩ ⟨between, .closed⟩ := by
    refine ⟨by decide +kernel, ?_⟩
    rw [hwhole]
    exact .ended
  have hupper : Turns ⟨[0x00, 0x83, 0x00], .closed⟩ ⟨[65], .broken truncated false rfl⟩ := by
    refine ⟨by decide +kernel, ?_⟩
    rw [hcut]
    exact .cut
  have hplain : (Brotli.readRule 8 4096).IsPlain := ⟨by decide, fun _ => rfl, fun _ => rfl⟩
  have hstored : Brotli.coding.Yields 7 7 Brotli.coding.start between [0x00, 0x83, 0x00] :=
    ⟨6, rfl, 5, rfl, 4, rfl, _, rfl, _, rfl, _, rfl, rfl⟩
  have hinner : Turned registry (inner.filter (· != "")) ⟨between, .closed⟩
      ⟨[65], .broken truncated false rfl⟩ :=
    .cons (.other rfl (hstored.turns hplain (by decide)))
      (.cons (.identity rfl rfl) (.cons (hlzw hupper) .nil))
  have hfirst : Turned registry (outer.filter (· != "")) ⟨data, .closed⟩ ⟨between, .closed⟩ :=
    .cons (hlzw hlower) .nil
  have houter : decompress 8 sizes registry outer data = .done between :=
    decompress_eq_outcome hfirst.turns (by decide)
  exact ⟨houter, decoding_composes (.cons (hlzw hlower) hinner) (by decide) houter,
    decompress_eq_outcome hinner.turns (by decide)⟩

/-- On other streams decoding does not compose. A clear code behind another is passed over if it
comes in a later piece, but not if both come in one. An end code in front of a break is decoded
if it comes in a later piece than the clear code before it, but not if both come in one. The data
are read into an array that grows. -/
theorem decoding_depends_on_pieces :
    let cleared : Bytes := [0x00, 0x01, 0x04, 0x00, 0x68, 0x20, 0x01, 0x82, 0x80]
    let broken : Bytes :=
      [0x00, 0x01, 0x04, 0x00, 0xC8, 0x40, 0x00, 0x40, 0x60, 0x00, 0x00, 0x06, 0x08, 0x08]
    let decode := decompress 8 .growing (DecoderRegistry.builtin 8)
    (decode ["compress"] cleared = .done [0x00, 0x01, 0x06, 0x09, 0x08] ∧
      decode ["compress"] [0x00, 0x01, 0x06, 0x09, 0x08] = .failed (.stream Lzw.truncated) ∧
      decode (["compress"] ++ ["compress"]) cleared = .done [65]) ∧
    (decode ["compress"] broken = .done [0x00, 0x01, 0x0C, 0x02, 0xC0, 0x00, 0x01] ∧
      decode ["compress", "compress"] [0x00, 0x01, 0x0C, 0x02, 0xC0, 0x00, 0x01] =
        .failed (.stream Lzw.truncated) ∧
      decode (["compress"] ++ ["compress", "compress"]) broken = .done [65]) := by
  decide +kernel

end ContentCoding
