import ContentCoding.Proofs.Lzw.Reading

/-!
# From one LZW layer to the other

An encoding layer that is written to and flushed in any order, and then finalized,
answers every call, and has put out a stream of all that was written. A decoding
layer reads that stream to its end and gives the data. The sizes of scratch space and
buffer do not matter, nor does how many bytes are taken, handed out or asked for at
a time.
-/

namespace ContentCoding.Lzw

universe u v

/-- What was written to an encoding layer in any pieces, with flushes in between, is read from a
decoding layer over the bytes that were put out, and nothing after it. All calls return. -/
theorem layers_round_trip {W : Type u} {writer : Writer W} {received : W → Bytes → Prop}
    (hw : writer.Collects received) {V : Type v} {reader : Reader V} {offers : V → Bytes → Prop}
    (hr : reader.Gives offers) (patience : Nat) {scratch readPatience buffer : Nat}
    (hscratch : 1 ≤ scratch) (hpatience : 3 ≤ readPatience) (hbuffer : 1 ≤ buffer)
    {world : W} (hworld : received world []) (script : List Feed) :
    ∃ bytes after last,
      (encoder patience scratch).performAll writer script {} world =
        (script.map fun feed => .ok feed.size, after, last) ∧
      (((encoder patience scratch).finalize after).run writer last).1.1 = .ok () ∧
      received (((encoder patience scratch).finalize after).run writer last).2 bytes ∧
      ∀ source, offers source bytes → ∀ rooms, (∀ room ∈ rooms, 1 ≤ room) →
        (Feed.content script).length < rooms.length →
        ∃ state rest,
          (decoder readPatience buffer).readThrough reader rooms [] {} source =
            (some (.ok (Feed.content script)), state, rest) ∧
          ∀ room rest, ((decoder readPatience buffer).read state room).run reader rest =
            ((.ok [], state), rest) := by
  obtain ⟨pieces, -, hwrites, hstreams⟩ :=
    encoder_writes patience hscratch script Packing.new_carries
  obtain ⟨after, last, hall, hanswer, hreceived⟩ := hwrites.performAll hw hworld
  refine ⟨Feed.content pieces, after, last, hall, hanswer, hreceived, ?_⟩
  intro source hsource rooms hrooms henough
  obtain ⟨state, rest, hread, hdone⟩ :=
    hstreams.readThrough hr hpatience hbuffer hsource hrooms henough
  exact ⟨state, rest, hread, fun room rest => read_done hdone room rest⟩

/-- With a byte of scratch space and a buffer of one byte, three bytes are read back one by one. -/
theorem layers_round_trip_bytewise :
    let sink : EncoderStack 0 × Outlet (Array UInt8) := (.bottom, { sink := #[], attached := true })
    ∃ bytes after last,
      (encoder 8 1).performAll (EncoderStack.writer 0)
        [.piece [7, 7], .flush, .piece [], .piece [7]] {} sink =
          ([.ok 2, .ok 0, .ok 0, .ok 1], after, last) ∧
      (((encoder 8 1).finalize after).run (EncoderStack.writer 0) last).1.1 = .ok () ∧
      (((encoder 8 1).finalize after).run (EncoderStack.writer 0) last).2.2.sink.toList = bytes ∧
      let source : DecoderStack 0 × Inlet Bytes := (.bottom, { source := bytes })
      ((decoder 3 1).readThrough (DecoderStack.reader 0) [1, 1, 1, 1] [] {} source).1 =
        some (.ok [7, 7, 7]) := by
  intro sink
  obtain ⟨bytes, after, last, hall, hanswer, hreceived, hread⟩ :=
    layers_round_trip (EncoderStack.writer_collects collects_array)
      (DecoderStack.reader_gives Bytes.supplies 0) 8 (Nat.le_refl 1) (Nat.le_refl 3) (Nat.le_refl 1)
      (⟨rfl, rfl⟩ : sink.2.attached = true ∧ sink.2.sink.toList = [])
      [.piece [7, 7], .flush, .piece [], .piece [7]]
  obtain ⟨state, rest, hresult, -⟩ :=
    hread (.bottom, { source := bytes }) ⟨bytes, rfl, rfl⟩ [1, 1, 1, 1] (by decide) (by decide)
  exact ⟨bytes, after, last, hall, hanswer, hreceived.2, congrArg Prod.fst hresult⟩

end ContentCoding.Lzw
