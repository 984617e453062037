import ContentCoding.Proofs.Gzip.Members
import ContentCoding.Proofs.Parameters
import ContentCoding.Proofs.Steadfast
import ContentCoding.Proofs.Zlib.Wrapping
import ContentCoding.Proofs.Zstd.Raw
import ContentCoding.Scripted.Endpoint

/-!
# What is lost when a write fails

The main statement is about compressors over steadfast layers: if one is closed without an
error, its sink holds what decompresses to all that the compressor said it had taken,
whatever went wrong before.

Of the built-in layers those that do nothing are steadfast, and so are those of gzip, zlib,
deflate and zstd, of which every stream decodes. LZW layers are not: what was to be written when
a write failed is lost.
-/

namespace ContentCoding

/-! ### Built-in layers -/

namespace Packer

variable {packer : Packer}

/-- A packer has taken some data and put out some bytes. So every stream that goes on from here is
what it would have been from the start. -/
def Reaches (packer : Packer) (state : packer.State) (taken output : Bytes) : Prop :=
  ∃ script, Feed.content script = taken ∧ ∀ later,
    packer.encodeFrom packer.start (script ++ later) = output ++ packer.encodeFrom state later

/-- A packer puts out streams of a kind if all its streams are of that kind. -/
theorem streams_of_encodes {opening : Bytes} {whole : (sent taken : Bytes) → Prop}
    (h : ∀ script, whole (opening ++ packer.encodeFrom packer.start script)
      (Feed.content script)) :
    packer.Streams opening packer.Reaches whole where
  start := ⟨[], rfl, fun _ => rfl⟩
  take state taken output data := by
    rintro ⟨script, rfl, hlater⟩
    refine ⟨script ++ [.piece data], ?_, fun later => ?_⟩
    · rw [Feed.content_append, Feed.content, Feed.content, List.append_nil]
    · rw [List.append_assoc, List.singleton_append, hlater, encodeFrom]
  flush state taken output := by
    rintro ⟨script, rfl, hlater⟩
    refine ⟨script ++ [.flush], ?_, fun later => ?_⟩
    · rw [Feed.content_append, Feed.content, Feed.content, List.append_nil]
    · rw [List.append_assoc, List.singleton_append, hlater, encodeFrom, List.append_assoc]
  finish state taken output := by
    rintro ⟨script, rfl, hlater⟩
    have hend := hlater []
    rw [List.append_nil, encodeFrom] at hend
    rw [List.append_assoc, ← hend]
    exact h script

/-- Layers that hold their output back are steadfast if every stream of the packer is recovered. -/
theorem steadfastAt_of_encodes {encoders : EncoderRegistry} {decoders : Nat → DecoderRegistry}
    {name : String} {rule : DeferRule}
    (hencodes : encoders.get? name =
      some (.always (packer.encoder rule) (Deferred.fresh packer rule)))
    (h : ∀ script, EventuallyRecovers decoders [name]
      (rule.opening ++ packer.encodeFrom packer.start script) (Feed.content script)) :
    SteadfastAt encoders decoders name :=
  steadfastAt (streams_of_encodes h) hencodes

end Packer

/-- Buffered readers recover a stream that decodes to its end, if they are allowed a read for each
byte of it and one for the end. -/
theorem Transducer.eventuallyRecovers {decoders : Nat → DecoderRegistry} {name : String}
    {coding : Transducer} {rule : Nat → ReadRule coding.State}
    (hroomy : ∀ reads, 1 ≤ (rule reads).bufferSize)
    (hpatience : ∀ reads, (rule reads).patience = reads)
    (hdecodes : ∀ reads, (decoders reads).get? name =
      some (.always (coding.decoder (rule reads)) coding.fresh))
    {encoded data : Bytes} (h : coding.toEnd coding.start encoded [] = some data) :
    EventuallyRecovers decoders [name] encoded data := by
  refine ⟨encoded.length + 1, fun reads hreads => ⟨data, _, hdecodes reads, ?_, rfl⟩⟩
  obtain ⟨more, rfl, hdecoded⟩ := decodeFrom_of_toEnd h
  have hless : encoded.length < (rule reads).patience := (hpatience reads).symm ▸ hreads
  exact ⟨_, _, rfl, (Buffered.fresh_decodes hdecoded).recovers (hroomy reads) hless⟩

/-- The built-in layers that do nothing are steadfast, and those of gzip, zlib, deflate and zstd, if
their parameters are in range. -/
theorem Coding.steadfastAt {coding : Coding} (hbr : coding ≠ .br) (hlzw : coding ≠ .compress)
    (patience : Nat) {config : CodecConfig}
    (hrange : ∀ parameter ∈ coding.encodingParameters, parameter.InRange config)
    (reading : CodecConfig) :
    SteadfastAt (.ofConfig patience config) (fun reads => .ofConfig reads reading)
      coding.token := by
  have hencodes := get?_token (encoderFactory patience config) coding
  have hdecodes := fun reads => get?_token (decoderFactory reads reading) coding
  rw [← CodecConfig.checkAll_eq_ok_iff] at hrange
  cases coding with
  | blank => exact identity_steadfastAt hencodes hdecodes
  | identity => exact identity_steadfastAt hencodes hdecodes
  | gzip =>
    have hchecked := CodecConfig.checkFlate_eq.trans hrange
    rw [encoderFactory, hchecked] at hencodes
    refine Packer.steadfastAt_of_encodes hencodes fun script => ?_
    have hleads := Gzip.member_leads config.flateLevel.toNat script
    exact ⟨_, fun reads hreads => DecoderRegistry.gzip_recovers reading hleads hreads⟩
  | zlib =>
    have hchecked := CodecConfig.checkFlate_eq.trans hrange
    rw [encoderFactory, hchecked] at hencodes
    exact Packer.steadfastAt_of_encodes hencodes fun script => Transducer.eventuallyRecovers
      (fun _ => (by decide : 1 ≤ Deflate.bufferSize)) (fun _ => rfl) hdecodes
      (Zlib.packer_decodes _ script)
  | deflate =>
    have hchecked := CodecConfig.checkFlate_eq.trans hrange
    rw [encoderFactory, hchecked] at hencodes
    exact Packer.steadfastAt_of_encodes hencodes fun script => Transducer.eventuallyRecovers
      (fun _ => (by decide : 1 ≤ Deflate.bufferSize)) (fun _ => rfl) hdecodes
      (Deflate.packer_decodes _ script)
  | zstd =>
    have hchecked := CodecConfig.checkZstd_eq.trans hrange
    rw [encoderFactory, hchecked] at hencodes
    exact Packer.steadfastAt_of_encodes hencodes fun script => Transducer.eventuallyRecovers
      (fun _ => (by decide : 1 ≤ Zstd.bufferSize)) (fun _ => rfl) hdecodes
      (Zstd.packer_decodes script)
  | br => exact absurd rfl hbr
  | compress => exact absurd rfl hlzw

/-! ### Compressors -/

/-- If a compressor over steadfast layers is closed without an error, its sink holds bytes that
decompress to what the writes before have taken, whatever calls failed in the meantime, were made
again or not. The sink may fail whenever it likes, and may take any part of what it is offered. The
decoding layers are allowed enough reads for the bytes that the sink holds. -/
theorem closed_pipeline_kept_all {encoders : EncoderRegistry} {decoders : Nat → DecoderRegistry}
    {order : List String} (hn : ∀ name ∈ order, name ≠ "" → SteadfastAt encoders decoders name)
    {σ : Type} [Sink σ] {received : σ → Bytes → Prop} (hr : Sink.Accounts received) {sink : σ}
    (hsink : received sink []) (calls : List Feed)
    (hclosed : ((Compressor.create sink encoders order).attemptAll calls).2.close.1 = .done ()) :
    ∃ bytes,
      received ((Compressor.create sink encoders order).attemptAll calls).2.close.2.outlet.sink
        bytes ∧
      ∃ enough, ∀ reads, enough ≤ reads → Decompresses (decoders reads) order bytes
        ((Compressor.create sink encoders order).attemptAll calls).1 := by
  have hnames : ∀ name ∈ order.filter (· != ""), SteadfastAt encoders decoders name := by
    intro name hname
    obtain ⟨hmem, hne⟩ := List.mem_filter.mp hname
    exact hn name hmem (by simpa using hne)
  have hanswers := (Compressor.answers_create hnames hsink).attemptAll hr calls
  rw [List.nil_append] at hanswers
  obtain ⟨bytes, hgot, enough, hrecovers⟩ := hanswers.close hr hclosed
  refine ⟨bytes, hgot, enough, fun reads hreads => ?_⟩
  exact fun holds hs source hsource rooms hrooms =>
    Decompressor.create_delivers hs (hrecovers reads hreads) hsource hrooms

namespace ScriptedSink

/-- Taking a number of bytes is accounted for. -/
theorem take_accounts (sink : ScriptedSink) (data : Bytes) (count : Nat) :
    Except.Accounts (sink.take data count).1 data sink.taken.toList
      fun got => (sink.take data count).2.taken.toList = got := by
  refine ⟨?_, ?_⟩
  · rw [List.length_take]
    exact Nat.min_le_right ..
  · simp [take]

/-- A sink that follows a script keeps what it says it has taken. -/
theorem accounts : Sink.Accounts fun (sink : ScriptedSink) got => sink.taken.toList = got := by
  refine ⟨?_, fun _ _ h => h⟩
  rintro sink _ data rfl
  have hnone : Except.Accounts (.ok 0) data sink.taken.toList
      fun got => sink.taken.toList = got := by
    refine ⟨Nat.zero_le _, ?_⟩
    rw [List.take_zero, List.append_nil]
  simp only [Sink.write, write]
  split
  · exact sink.take_accounts data _
  · exact sink.take_accounts data _
  · split
    · exact sink.take_accounts data _
    · split
      · exact rfl
      · exact hnone
  · split
    · exact sink.take_accounts data _
    · exact rfl
  · exact sink.take_accounts data _
  · split
    · exact rfl
    · exact sink.take_accounts data _

end ScriptedSink

/-- Calls of a compressor over layers of zstd and identity. Its sink fails two writes: one of a
flush, behind which what was taken stays pending, and one of a write, which takes nothing. -/
def attemptedOverFailingSink : Bytes × Compressor ScriptedSink :=
  (Compressor.create { script := .failsFirst 2 (.bare .timedOut) } (.ofConfig 8 {})
    ["zstd", "", "identity"]).attemptAll [.piece [1, 2], .flush, .piece [3], .piece [4]]

/-- One piece is not taken, and the compressor is closed without an error. -/
theorem attemptedOverFailingSink_outcomes :
    attemptedOverFailingSink.1 = [1, 2, 4] ∧ attemptedOverFailingSink.2.close.1 = .done () := by
  decide +kernel

/-- What the sink has by then decompresses to what was taken. -/
theorem zstd_keeps_all_over_failing_sink :
    (∀ name ∈ ["zstd", "", "identity"], name ≠ "" →
      SteadfastAt (.ofConfig 8 {}) (fun reads => .ofConfig reads {}) name) ∧
    attemptedOverFailingSink.2.close.1 = .done () ∧
    ∃ enough, ∀ reads, enough ≤ reads → Decompresses (.ofConfig reads {}) ["zstd", "", "identity"]
      attemptedOverFailingSink.2.close.2.outlet.sink.taken.toList [1, 2, 4] := by
  have hrange : ∀ coding : Coding, ∀ parameter ∈ coding.encodingParameters,
      parameter.InRange {} := CodecConfig.validate_eq_ok_iff.mp rfl
  have hn : ∀ name ∈ ["zstd", "", "identity"], name ≠ "" →
      SteadfastAt (.ofConfig 8 {}) (fun reads => .ofConfig reads {}) name := by
    intro name hmem hne
    simp only [List.mem_cons, List.not_mem_nil, or_false] at hmem
    rcases hmem with rfl | rfl | rfl
    · exact @Coding.steadfastAt .zstd (by decide) (by decide) 8 {} (hrange .zstd) {}
    · exact absurd rfl hne
    · exact @Coding.steadfastAt .identity (by decide) (by decide) 8 {} (hrange .identity) {}
  obtain ⟨htaken, hclosed⟩ := attemptedOverFailingSink_outcomes
  obtain ⟨bytes, rfl, hback⟩ := closed_pipeline_kept_all hn ScriptedSink.accounts rfl _ hclosed
  rw [← htaken]
  exact ⟨hn, hclosed, hback⟩

/-! ### What LZW layers lose -/

/-- A write to a chain is one to its top layer. -/
theorem EncoderChain.write_layer {σ : Type} [Sink σ] {depth : Nat} {name : String}
    {encoder : Encoder} {state after : encoder.State} {below rest : EncoderStack depth}
    {outlet left : Outlet σ} {names : List String} {bytes : Bytes} {answer : Except Fault Nat}
    (h : (encoder.write state bytes).run (EncoderStack.writer depth) (below, outlet) =
      ((answer, after), rest, left)) :
    EncoderChain.write bytes ⟨depth + 1, .layer name encoder state below, names⟩ outlet =
      (answer, ⟨depth + 1, .layer name encoder after rest, names⟩, left) := by
  simp only [EncoderChain.write, EncoderStack.writer, h]

/-- A chain of one layer is closed by finalizing it. -/
theorem EncoderChain.finalizeAll_layer {σ : Type} [Sink σ] (name : String) {encoder : Encoder}
    {state after : encoder.State} {outlet left : Outlet σ}
    (h : (encoder.closing state).run (EncoderStack.writer 0) (.bottom, outlet) =
      ((.ok (), after), .bottom, left)) :
    Chain.finalizeAll ⟨1, .layer name encoder state .bottom, [name]⟩ outlet =
      (.ok (), ⟨1, .layer name encoder after .bottom, [name]⟩, left) := by
  have hlayer := Stack.finalizeAlong_layer name 0 [] name encoder state .bottom outlet
  rw [EncoderStack.meet_eq, h] at hlayer
  have hentries : [name].zipIdx.reverse = [(name, 0)] := rfl
  have hends : Stack.finalizeAlong [(name, 0)] (.layer name encoder state .bottom) outlet =
      (.ok (), .layer name encoder after .bottom, left) := by
    rw [hlayer]
    simp only [Stack.finalizeAlong, ite_self]
  simp only [Chain.finalizeAll, hentries, hends]

/-- A read from a chain is one from its top layer. -/
theorem DecoderChain.read_layer {σ : Type} [Source σ] {depth : Nat} {name : String}
    {decoder : Decoder} {state after : decoder.State} {below rest : DecoderStack depth}
    {inlet left : Inlet σ} {names : List String} {room : Nat} {answer : Except Fault Bytes}
    (h : (decoder.read state room).run (DecoderStack.reader depth) (below, inlet) =
      ((answer, after), rest, left)) :
    DecoderChain.read room ⟨depth + 1, .layer name decoder state below, names⟩ inlet =
      (answer, ⟨depth + 1, .layer name decoder after rest, names⟩, left) := by
  simp only [DecoderChain.read, DecoderStack.reader, h]

/-- What the LZW encoder puts out for six letters, and what it knows then. -/
theorem Lzw.feed_letters :
    ∃ table branches, Packing.feed {} 4096 [97, 98, 99, 100, 101, 102] =
      ⟨[0, 195, 136, 25, 67, 166], [], ⟨table, branches, 263, 9, some 102, ⟨12, 6⟩, false⟩,
        .going⟩ := by
  generalize hfed : Packing.feed {} 4096 [97, 98, 99, 100, 101, 102] = fed
  simp [Packing.feed, Packing.spill, Packing.spillAll, Packing.feedFrom, Packing.extend,
    Packing.assign, Packing.send, BitQueue.push, Packing.key, minWidth, firstFree, codeLimit,
    clearCode, smallList, maxWidth, BitQueue.drain, Std.HashMap.getD_insert] at hfed
  exact ⟨_, _, hfed.symm⟩

/-- What it puts out when it is finished after them. -/
theorem Lzw.finish_letters (table branches : Std.HashMap Nat Nat) :
    Packing.finish ⟨table, branches, 263, 9, some 102, ⟨12, 6⟩, false⟩ 4096 =
      ⟨[140, 153, 128], [], ⟨table, branches, 263, 9, some endCode, {}, true⟩, .ended⟩ := by
  simp [Packing.finish, Packing.told, Packing.feed, Packing.spill, Packing.conclude,
    Packing.terminate, Packing.send, Packing.spillAll, BitQueue.push, BitQueue.pad, BitQueue.drain,
    maxWidth, endCode]

/-- What is left of the letters' stream without its first bytes is not one. -/
theorem Lzw.readToEnd_of_lost (sizes : ReadSizes) :
    ((Decompressor.create ([140, 153, 128] : Bytes) (DecoderRegistry.builtin 8)
      ["compress"]).readToEnd 8 sizes).1 = .failed Lzw.invalidCode := by
  let inlet (source : Bytes) : Inlet Bytes := { source, counters := Counters.setLayers {} 1 }
  have hinit : (Decompressor.create ([140, 153, 128] : Bytes) (DecoderRegistry.builtin 8)
      ["compress"]).init = (.done (), ⟨["compress"], DecoderRegistry.builtin 8,
        ⟨.built, none, .built ⟨1, .layer "compress" (decoder 8 4096) {} .bottom, ["compress"]⟩⟩,
        inlet [140, 153, 128]⟩) := rfl
  obtain ⟨room, hroom⟩ : ∃ room, sizes.next = room + 1 :=
    Nat.exists_eq_succ_of_ne_zero (Nat.ne_of_gt sizes.next_pos)
  have hattempt : attempt (room + 1) false {} [140, 153, 128] =
      .answered (.error invalidCode) ⟨⟨{}, ⟨0x404c, 15⟩, []⟩, [], false, false⟩ := by
    rw [attempt]
    rfl
  have hread : ((decoder 8 4096).read {} (room + 1)).run (DecoderStack.reader 0)
      (.bottom, inlet [140, 153, 128]) =
        ((.error invalidCode, ⟨⟨{}, ⟨0x404c, 15⟩, []⟩, [], false, false⟩), .bottom,
          { inlet [] with counters := (Counters.setLayers {} 1).addEncoded 3 }) := by
    have hrounds : (decoder 8 4096).read {} (room + 1) = readRounds 4096 (room + 1) 8 {} := rfl
    have hgiven : (DecoderStack.reader 0).read (.bottom, inlet [140, 153, 128]) 4096 =
        (.ok [140, 153, 128], .bottom,
          { inlet [] with counters := (Counters.setLayers {} 1).addEncoded 3 }) := rfl
    rw [hrounds, readRounds]
    simp only [Pull.run, hgiven, List.isEmpty, hattempt]
    rfl
  refine Decompressor.readToEnd_of_failed ?_ rfl 7
  rw [hroom, Decompressor.read_eq, hinit]
  dsimp only
  rw [Decompressor.readBuilt_of_built rfl, DecoderChain.read_layer hread]
  rfl

/-- An LZW layer over a sink that fails one write has lost the bytes by then, and is closed without
an error all the same. The sink is left with bytes that do not decode. -/
theorem lzw_layer_loses_failed_write :
    let sink : ScriptedSink := { script := .failsFirst 1 (.described .other "m") }
    let attempted := (Compressor.create sink (EncoderRegistry.builtin 8) ["compress"]).attemptAll
      [.piece [97, 98, 99, 100, 101, 102]]
    attempted.1 = [] ∧ attempted.2.close.1 = .done () ∧
      attempted.2.close.2.outlet.sink.taken = #[140, 153, 128] ∧
      ∀ sizes, ((Decompressor.create ([140, 153, 128] : Bytes) (DecoderRegistry.builtin 8)
        ["compress"]).readToEnd 8 sizes).1 = .failed Lzw.invalidCode := by
  intro sink attempted
  obtain ⟨table, branches, hfeed⟩ := Lzw.feed_letters
  have hfinish := Lzw.finish_letters table branches
  generalize (⟨table, branches, 263, 9, some 102, ⟨12, 6⟩, false⟩ : Lzw.Packing) = packing
    at hfeed hfinish
  let outlet (sink : ScriptedSink) : Outlet ScriptedSink :=
    { sink, attached := true, counters := Counters.setLayers {} 1 }
  let compressor (state : Lzw.WriterState) (sink : ScriptedSink) : Compressor ScriptedSink :=
    ⟨["compress"], EncoderRegistry.builtin 8, ⟨.built, none,
      .built ⟨1, .layer "compress" (Lzw.encoder 8 4096) state .bottom, ["compress"]⟩⟩, outlet sink⟩
  have hinit : (Compressor.create sink (EncoderRegistry.builtin 8) ["compress"]).init =
      (.done (), compressor {} sink) := rfl
  have hwrite : ((Lzw.encoder 8 4096).write {} [97, 98, 99, 100, 101, 102]).run
      (EncoderStack.writer 0) (.bottom, outlet sink) =
        ((.error (.described .other "m"), { packing }), .bottom,
          outlet { sink with writes := 1 }) := by
    have hrounds : (Lzw.encoder 8 4096).write {} [97, 98, 99, 100, 101, 102] =
        Lzw.writeRounds 8 4096 6 {} [97, 98, 99, 100, 101, 102] := rfl
    rw [hrounds, Lzw.writeRounds_of_ne _ _ _ _ (List.cons_ne_nil _ _)]
    simp only [hfeed]
    rfl
  have hattempted : attempted = ([], compressor { packing } { sink with writes := 1 }) := by
    simp only [attempted, Compressor.attemptAll, Compressor.attempt, Compressor.write_eq, hinit]
    rw [Compressor.writeBuilt_of_built rfl, EncoderChain.write_layer hwrite]
    rfl
  have hfinalize : ((Lzw.encoder 8 4096).closing { packing }).run (EncoderStack.writer 0)
      (.bottom, outlet { sink with writes := 1 }) =
        ((.ok (), ⟨⟨table, branches, 263, 9, some Lzw.endCode, {}, true⟩, true⟩), .bottom,
          { outlet { sink with taken := #[140, 153, 128], writes := 2 } with
            counters := (Counters.setLayers {} 1).addEncoded 3 }) := by
    have hrounds : (Lzw.encoder 8 4096).closing { packing } =
        (Lzw.finishRounds 8 4096 (8 + packing.remaining + 1) packing).map
          fun result => result.getD (.error (.bare .interrupted), { packing }) := rfl
    rw [hrounds, Lzw.finishRounds, hfinish]
    rfl
  have hall := EncoderChain.finalizeAll_layer "compress" hfinalize
  have hunbuilt : attempted.2.guard.isUnbuilt = false := by rw [hattempted]; rfl
  have hsink := congrArg (fun finalized => finalized.2.2.sink.taken) hall
  rw [Compressor.close_of_settled hunbuilt, hattempted, Compressor.finish_sink rfl]
  refine ⟨rfl, ?_, hsink, Lzw.readToEnd_of_lost⟩
  rw [Compressor.finish_of_built rfl]
  exact congrArg (fun finalized => Outcome.ofExcept finalized.1) hall

end ContentCoding
