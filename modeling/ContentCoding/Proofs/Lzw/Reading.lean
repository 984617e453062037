import ContentCoding.Proofs.Lzw.Layer

/-!
# Whole LZW streams and the reads of a layer

Reading a stream to its end, with rooms that the caller chooses and in pieces that
the reader below chooses, should give what the stream unpacks to in one go. For streams
in which no clear code follows another directly it does, bytes and errors alike.

A second clear code in a row may give an error, according to the pieces. So of other
streams it is only known that the bytes are right whenever reading ends well.
-/

namespace ContentCoding

universe v

namespace Decoder

variable {W : Type v}

/-- Read with given rooms, one after another, until an answer has no bytes or is a fault. The
result is what that comes to, if there are rooms enough. The bytes read so far are passed along. -/
def readThrough (decoder : Decoder) (reader : Reader W) :
    (rooms : List Nat) → (given : Bytes) → decoder.State → W →
      Option (Except Fault Bytes) × decoder.State × W
  | [], _, state, world => (none, state, world)
  | room :: rooms, given, state, world =>
    match (decoder.read state room).run reader world with
    | ((.error fault, state), world) => (some (.error fault), state, world)
    | ((.ok [], state), world) => (some (.ok given), state, world)
    | ((.ok bytes, state), world) => readThrough decoder reader rooms (given ++ bytes) state world

end Decoder

namespace Lzw

namespace BitQueue

/-- Bytes may be put behind a queue one part after the other. -/
theorem join_append (held : BitQueue) (first second : Bytes) :
    held.join (first ++ second) = (held.join first).join second := by
  rw [join, join, join, Bytes.valueLE_append, List.length_append, Nat.mul_add, ← Nat.mul_assoc,
    ← twoTo_add, Nat.add_assoc]
  congr 1
  dsimp only
  omega

end BitQueue

/-- Bytes behind an end code, or behind a code that cannot occur, change nothing. -/
theorem Unpacking.unpack_join {unpacking : Unpacking} {bits : BitQueue} {later : Bytes}
    (h : (unpacking.unpack bits).fault ≠ some truncated) :
    unpacking.unpack (bits.join later) = unpacking.unpack bits := by
  cases hn : bits.next? unpacking.width with
  | none =>
    rw [unpack_of_none hn] at h
    exact absurd rfl h
  | some taken =>
    obtain ⟨code, rest⟩ := taken
    have hcount := BitQueue.next?_count hn
    have hwidth : 9 ≤ unpacking.width := unpacking.narrow
    rw [unpack_of_some hn] at h ⊢
    rw [unpack_of_some (BitQueue.next?_join hn later)]
    cases ha : unpacking.accept code with
    | cleared =>
      rw [ha] at h
      exact unpack_join h
    | ended => rfl
    | invalid => rfl
    | string bytes next =>
      rw [ha] at h
      exact congrArg (Unpacked.after · bytes) (unpack_join h)
termination_by bits.count

variable {W : Type v} {reader : Reader W} {offers : W → Bytes → Prop}
variable {assumed : Prop} {patience buffer : Nat} {unpacked : Unpacked} {later : Bytes}

/-- A layer that has decoded the end code gives nothing, whatever is below. -/
theorem read_done {state : ReaderState} (h : state.done = true) (room : Nat) (world : W) :
    ((decoder patience buffer).read state room).run reader world = ((.ok [], state), world) := by
  simp only [decoder, h, Bool.or_true, if_true, Pull.run]

/-- What reading what is left of a stream may come to, with so many rooms and after the bytes read
before. -/
inductive Verdict (assumed : Prop) (rooms : Nat) (given : Bytes) :
    Unpacked → Option (Except Fault Bytes) × ReaderState × W → Prop
  /-- There were no more rooms than bytes. -/
  | short {unpacked : Unpacked} {state : ReaderState} {world : W}
      (few : rooms ≤ unpacked.output.length) :
      Verdict assumed rooms given unpacked (none, state, world)
  /-- All bytes before the end code were read, and the end code after them. -/
  | ended {output : Bytes} {state : ReaderState} {world : W} (done : state.done = true) :
      Verdict assumed rooms given ⟨output, none⟩ (some (.ok (given ++ output)), state, world)
  /-- Under the assumption, the fault is what is wrong with the stream. -/
  | failed {unpacked : Unpacked} {fault : Fault} {state : ReaderState} {world : W}
      (wrong : assumed → unpacked.fault = some fault) :
      Verdict assumed rooms given unpacked (some (.error fault), state, world)

/-- A room more is enough for a byte before. -/
theorem Verdict.cons {rooms : Nat} {given bytes : Bytes} {byte : UInt8}
    {result : Option (Except Fault Bytes) × ReaderState × W}
    (h : Verdict assumed rooms (given ++ byte :: bytes) unpacked result) :
    Verdict assumed (rooms + 1) given (unpacked.after (byte :: bytes)) result := by
  cases h with
  | short few =>
    refine .short ?_
    rw [Unpacked.after, List.length_append, List.length_cons]
    omega
  | ended done =>
    rw [List.append_assoc]
    exact .ended done
  | failed wrong => exact .failed wrong

/-- Reading gives the bytes that a layer awaits, or what is wrong with the stream. There is one
room for each byte at most, before it ends. -/
theorem readThrough_awaits (hr : reader.Gives offers) (hpatience : assumed → 3 ≤ patience)
    (hbuffer : 1 ≤ buffer) {rooms : List Nat} (hrooms : ∀ room ∈ rooms, 1 ≤ room)
    (given : Bytes) {state : ReaderState} {world : W} (ho : offers world later)
    (h : state.Awaits assumed later unpacked) :
    Verdict assumed rooms.length given unpacked
      ((decoder patience buffer).readThrough reader rooms given state world) := by
  induction rooms generalizing given state world later unpacked with
  | nil => exact .short (Nat.zero_le _)
  | cons room rooms ih =>
    obtain ⟨hroom, hlater⟩ := List.forall_mem_cons.mp hrooms
    obtain ⟨rest, hanswers, hleft⟩ : ∃ rest,
        Answers assumed room rest unpacked
          (((decoder patience buffer).read state room).run reader world).1 ∧
        offers (((decoder patience buffer).read state room).run reader world).2 rest :=
      (read_answers hpatience hbuffer hroom h).run hr ho
    simp only [Decoder.readThrough]
    rcases hread : ((decoder patience buffer).read state room).run reader world with
      ⟨⟨answer, after⟩, next⟩
    rw [hread] at hanswers hleft
    cases hanswers with
    | @gives bytes remaining _ some fits awaits =>
      obtain ⟨byte, bytes, rfl⟩ := List.exists_cons_of_ne_nil some
      exact (ih hlater (given ++ byte :: bytes) hleft awaits).cons
    | ends done =>
      have hended := @Verdict.ended W assumed (room :: rooms).length given [] after next done
      rwa [List.append_nil] at hended
    | fails wrong => exact .failed wrong

/-- The stream of some data is read to its end, and then the layer has decoded the end code. -/
theorem Streams.readThrough {data : Bytes} {bytes : Bytes} (h : Streams bytes data)
    (hr : reader.Gives offers) (hpatience : 3 ≤ patience) (hbuffer : 1 ≤ buffer) {world : W}
    (ho : offers world bytes) {rooms : List Nat} (hrooms : ∀ room ∈ rooms, 1 ≤ room)
    (henough : data.length < rooms.length) :
    ∃ state last, (decoder patience buffer).readThrough reader rooms [] {} world =
        (some (.ok data), state, last) ∧ state.done = true := by
  have hnew := awaits_new bytes fun _ : True => h.1
  rw [h.2] at hnew
  have hverdict := readThrough_awaits hr (fun _ => hpatience) hbuffer hrooms [] ho hnew
  generalize (decoder patience buffer).readThrough reader rooms [] {} world = result at hverdict ⊢
  cases hverdict with
  | short few => exact absurd few (Nat.not_le.mpr henough)
  | @ended _ state last done => exact ⟨state, last, rfl, done⟩
  | failed wrong => cases wrong trivial

/-- Reading a stream to its end, with one room for each byte and one for the end, gives what the
whole stream unpacks to if no clear code follows another directly. If one does, reading may
end in an error, but when it ends well the bytes are right. Once it has ended well there is
nothing more, and bytes behind that end are not looked at. -/
theorem reading_agrees_with_unpacking (hr : reader.Gives offers) (hpatience : 3 ≤ patience)
    (hbuffer : 1 ≤ buffer) {bytes : Bytes} {world : W} (ho : offers world bytes)
    {rooms : List Nat} (hrooms : ∀ room ∈ rooms, 1 ≤ room)
    (henough : (Unpacking.unpack {} (BitQueue.join {} bytes)).output.length < rooms.length) :
    ∃ verdict state last,
      (decoder patience buffer).readThrough reader rooms [] {} world = (some verdict, state, last) ∧
      (Unpacking.Steady {} false (BitQueue.join {} bytes) →
        verdict = (Unpacking.unpack {} (BitQueue.join {} bytes)).verdict) ∧
      ∀ data, verdict = .ok data →
        (∀ more, (Unpacking.unpack {} (BitQueue.join {} (bytes ++ more))).verdict = .ok data) ∧
        ∀ room world,
          ((decoder patience buffer).read state room).run reader world =
            ((.ok [], state), world) := by
  have hnew := awaits_new bytes fun hsteady : Unpacking.Steady {} false _ => hsteady
  have hverdict := readThrough_awaits hr (fun _ => hpatience) hbuffer hrooms [] ho hnew
  generalize hu : Unpacking.unpack {} (BitQueue.join {} bytes) = unpacked at hverdict henough ⊢
  generalize (decoder patience buffer).readThrough reader rooms [] {} world = result at hverdict ⊢
  cases hverdict with
  | short few => exact absurd few (Nat.not_le.mpr henough)
  | @ended output state last done =>
    refine ⟨_, state, last, rfl, fun _ => rfl, ?_⟩
    rintro _ ⟨⟩
    refine ⟨fun more => ?_, fun room world => read_done done room world⟩
    have hwhole : (Unpacking.unpack {} (BitQueue.join {} bytes)).fault ≠ some truncated := by
      rw [hu]
      exact nofun
    rw [BitQueue.join_append, Unpacking.unpack_join hwhole, hu]
    rfl
  | @failed _ fault state last wrong =>
    refine ⟨_, state, last, rfl, fun hsteady => ?_, nofun⟩
    rw [Unpacked.verdict, wrong hsteady]

/-- The stream of a letter, with a byte behind it, is read byte by byte. -/
theorem reading_agrees_on_letter :
    let source : DecoderStack 0 × Inlet Bytes :=
      (.bottom, { source := [0x00, 0x83, 0x04, 0x04, 0xFF] })
    ((decoder 3 1).readThrough (DecoderStack.reader 0) [1, 1] [] {} source).1 =
      some (.ok [65]) := by
  intro source
  have hdecodes : Unpacking.Decodes {} false [⟨9, 256⟩, ⟨9, 65⟩, ⟨9, 257⟩, ⟨13, 8160⟩] [65] :=
    ⟨rfl, by decide, rfl, rfl, by decide, [], rfl, rfl, by decide, rfl⟩
  have hspells : (BitQueue.join {} [0x00, 0x83, 0x04, 0x04, 0xFF]).Spells
      [⟨9, 256⟩, ⟨9, 65⟩, ⟨9, 257⟩, ⟨13, 8160⟩] := ⟨by decide, by decide⟩
  obtain ⟨hsteady, hunpack⟩ := hdecodes.unpacks hspells
  have hrooms : ∀ room ∈ [1, 1], 1 ≤ room := by decide
  have hgives := DecoderStack.reader_gives Bytes.supplies 0
  have hsource : DecoderStack.Offers (fun rest data => rest = data) source
      [0x00, 0x83, 0x04, 0x04, 0xFF] := ⟨_, rfl, rfl⟩
  obtain ⟨verdict, state, last, hread, hverdict, -⟩ :=
    reading_agrees_with_unpacking hgives (Nat.le_refl 3) (Nat.le_refl 1) hsource hrooms
      (by rw [hunpack]; decide)
  rw [hread, hverdict hsteady, hunpack]
  rfl

/-- A letter between a second clear code and an end code is read as a stream that is cut short. -/
theorem second_clear_code_reads_as_truncated :
    let bytes : Bytes := [0x00, 0x01, 0x06, 0x09, 0x08]
    let source : DecoderStack 0 × Inlet Bytes := (.bottom, { source := bytes })
    (Unpacking.unpack {} (BitQueue.join {} bytes)).verdict = .ok [65] ∧
      ((decoder 3 4096).readThrough (DecoderStack.reader 0) [1, 1] [] {} source).1 =
        some (.error truncated) := by
  intro bytes source
  refine ⟨?_, ?_⟩
  · have hnext : (BitQueue.join {} bytes).next? (Unpacking.width {}) =
        some (clearCode, ⟨0x4048300, 31⟩) := by decide
    have hclear : Unpacking.unpack {} (BitQueue.join {} bytes) =
        Unpacking.unpack {} ⟨0x4048300, 31⟩ := Unpacking.unpack_of_some hnext
    have hdecodes : Unpacking.Decodes {} false [⟨9, 256⟩, ⟨9, 65⟩, ⟨9, 257⟩] [65] :=
      ⟨rfl, by decide, rfl, rfl, by decide, [], rfl, rfl, by decide, rfl⟩
    rw [hclear, (hdecodes.unpacks ⟨by decide, by decide⟩).2]
    rfl
  · have hfirst : attempt 1 false {} bytes = .starved ⟨{}, ⟨0x4048300, 31⟩, []⟩ := by
      rw [attempt]
      rfl
    have hsecond : attempt 1 true ⟨{}, ⟨0x4048300, 31⟩, []⟩ [] =
        .answered (.error truncated) ⟨⟨{}, ⟨0x20241, 22⟩, []⟩, [], true, false⟩ := by
      rw [attempt]
      rfl
    have hread : (decoder 3 4096).read {} 1 = readRounds 4096 1 3 {} := rfl
    simp [Decoder.readThrough, hread, readRounds, Pull.run, hfirst, hsecond, Inlet.read,
      Source.read, bytes, source, DecoderStack.reader]

end Lzw

end ContentCoding
