import ContentCoding.Proofs.Lzw.Output
import ContentCoding.Proofs.Lzw.Reading

/-!
# LZW streams that are cut short

No first part of a stream passes for a whole one. The end code is the last code of a stream, and
the padding behind it is less than a byte, so a cut loses some of its bits. A decoder accepts all
codes before it and then waits for bits that do not come. A layer that reads such a part gives first
bytes of the data and then reports the cut, at every read from there on.
-/

namespace ContentCoding

universe u v

namespace Decoder

variable {V : Type v}

/-- Read with given rooms, one after another, whatever the answers are. -/
def readEach (decoder : Decoder) (reader : Reader V) :
    (rooms : List Nat) → decoder.State → V → List (Except Fault Bytes)
  | [], _, _ => []
  | room :: rooms, state, world =>
    let ((answer, state), world) := (decoder.read state room).run reader world
    answer :: readEach decoder reader rooms state world

/-- There is one answer for each room. -/
theorem length_readEach (decoder : Decoder) (reader : Reader V) (rooms : List Nat)
    (state : decoder.State) (world : V) :
    (decoder.readEach reader rooms state world).length = rooms.length := by
  induction rooms generalizing state world with
  | nil => rfl
  | cons room rooms ih =>
    simp only [readEach]
    rw [List.length_cons, ih, List.length_cons]

end Decoder

/-- The first bytes of a number written in more bytes are the number written in fewer. -/
theorem Bytes.take_littleEndian {few many : Nat} (h : few ≤ many) (value : Nat) :
    (littleEndian many value).take few = littleEndian few value := by
  induction few generalizing many value with
  | zero => rfl
  | succ few ih =>
    obtain ⟨more, rfl⟩ := Nat.exists_eq_succ_of_ne_zero (Nat.ne_zero_of_lt h)
    rw [littleEndian, littleEndian, List.take_succ_cons, ih (Nat.le_of_succ_le_succ h)]

namespace Lzw

namespace BitQueue

/-- The bits of a queue are the first bits of what fields spell. -/
def Begins (bits : BitQueue) (fields : List BitField) : Prop :=
  bits.value = BitField.spell fields % twoTo bits.count

variable {bits : BitQueue} {field : BitField} {fields : List BitField}

/-- If there are bits enough the first field is the next code, and the rest begins the others. -/
theorem Begins.next (h : bits.Begins (field :: fields)) (hvalue : field.value < twoTo field.width)
    (hcount : field.width ≤ bits.count) :
    ∃ rest, bits.next? field.width = some (field.value, rest) ∧ rest.Begins fields ∧
      rest.count + field.width = bits.count := by
  obtain ⟨left, hleft⟩ := Nat.exists_eq_add_of_le hcount
  have hsplit : bits.value =
      field.value + twoTo field.width * (BitField.spell fields % twoTo left) := by
    rw [h, hleft, BitField.spell, twoTo_add, Nat.mod_mul, Nat.add_mul_mod_self_left,
      Nat.mod_eq_of_lt hvalue, Nat.add_mul_div_left _ _ (twoTo_pos field.width),
      Nat.div_eq_of_lt hvalue, Nat.zero_add]
  have hrest : bits.count - field.width = left := by omega
  refine ⟨(bits.pop field.width).2, ?_, ?_, ?_⟩
  · rw [next?, if_neg (Nat.not_lt.mpr hcount), pop, hsplit, Nat.add_mul_mod_self_left,
      Nat.mod_eq_of_lt hvalue]
  · rw [pop, Begins, hsplit, hrest, Nat.add_mul_div_left _ _ (twoTo_pos field.width),
      Nat.div_eq_of_lt hvalue, Nat.zero_add]
  · rw [pop, hrest, hleft, Nat.add_comm]

/-- A first part of packed fields begins them. If it is not all, bits of the fields are missing. -/
theorem begins_of_cut {cut : Bytes} (hfront : cut <+: BitField.pack fields)
    (hcut : cut ≠ BitField.pack fields) :
    (join {} cut).Begins fields ∧ (join {} cut).count < BitField.totalWidth fields := by
  have hwhole : (BitField.pack fields).length = (BitField.totalWidth fields + 7) / 8 :=
    Bytes.length_littleEndian _ _
  have hless : cut.length < (BitField.pack fields).length :=
    Nat.lt_of_le_of_ne hfront.length_le fun hsame => hcut (hfront.eq_of_length hsame)
  rw [hwhole] at hless
  have hbytes : cut = Bytes.littleEndian cut.length (BitField.spell fields) := by
    have htake := List.prefix_iff_eq_take.mp hfront
    rw [BitField.pack, Bytes.take_littleEndian (Nat.le_of_lt hless)] at htake
    exact htake
  have hvalue : cut.valueLE = BitField.spell fields % twoTo (8 * cut.length) := by
    rw [← Bytes.valueLE_littleEndian, ← hbytes]
  have hcount : (join {} cut).count = 8 * cut.length := Nat.zero_add _
  have hjoined : (join {} cut).value = cut.valueLE := (Nat.zero_add _).trans (Nat.one_mul _)
  refine ⟨?_, ?_⟩
  · rw [Begins, hjoined, hcount, hvalue]
  · rw [hcount]
    omega

end BitQueue

namespace Unpacking

variable {unpacking next : Unpacking} {bits : BitQueue} {fields later : List BitField}
variable {data : Bytes} {cleared last : Bool}

/-- Bits that are not enough for a code are a stream that is cut short, and give nothing. -/
theorem cut_short_of_scarce (hscarce : bits.count < unpacking.width) (data : Bytes) :
    unpacking.Steady cleared bits ∧
      ∃ given, given <+: data ∧ unpacking.unpack bits = ⟨given, some truncated⟩ := by
  have hnone := BitQueue.next?_eq_none.mpr hscarce
  exact ⟨steady_of_none hnone, [], List.nil_prefix, unpack_of_none hnone⟩

/-- Bits that begin codes which a decoder passes, and that end before the next code does, are a
stream that is cut short. It has some of the data, and no clear code follows another. -/
theorem Passes.cut_short (h : unpacking.Passes cleared fields data next last)
    (hbits : bits.Begins (fields ++ later))
    (hshort : bits.count < BitField.totalWidth fields + next.width) :
    unpacking.Steady cleared bits ∧
      ∃ given, given <+: data ∧ unpacking.unpack bits = ⟨given, some truncated⟩ := by
  induction fields generalizing unpacking cleared bits data with
  | nil =>
    obtain ⟨-, rfl, -⟩ := h
    exact cut_short_of_scarce (Nat.lt_of_lt_of_eq hshort (Nat.zero_add _)) data
  | cons field fields ih =>
    obtain ⟨hwidth, hvalue, haccept⟩ := h
    by_cases hscarce : bits.count < unpacking.width
    · exact cut_short_of_scarce hscarce data
    obtain ⟨rest, hnext, hrest, hcount⟩ := hbits.next hvalue (hwidth ▸ Nat.not_lt.mp hscarce)
    rw [BitField.totalWidth_cons] at hshort
    have hleft : rest.count < BitField.totalWidth fields + next.width := by omega
    rw [hwidth] at hnext
    rw [steady_of_some hnext, unpack_of_some hnext]
    cases ha : unpacking.accept field.value with
    | cleared =>
      rw [ha] at haccept
      obtain ⟨hsteady, hcut⟩ := ih haccept.2 hrest hleft
      exact ⟨⟨haccept.1, hsteady⟩, hcut⟩
    | ended =>
      rw [ha] at haccept
      exact haccept.elim
    | invalid =>
      rw [ha] at haccept
      exact haccept.elim
    | string bytes after =>
      rw [ha] at haccept
      obtain ⟨more, rfl, hpasses⟩ := haccept
      obtain ⟨hsteady, given, hgiven, hunpack⟩ := ih hpasses hrest hleft
      refine ⟨hsteady, bytes ++ given, (List.prefix_append_right_inj bytes).mpr hgiven, ?_⟩
      exact congrArg (Unpacked.after · bytes) hunpack

end Unpacking

variable {V : Type v} {reader : Reader V} {offers : V → Bytes → Prop} {patience buffer : Nat}

/-- Answers to reads are first bytes of some output, piece by piece, and then the report that the
stream is cut short, over and over. All of the output comes before that report. -/
def BreaksOff (answers : List (Except Fault Bytes)) (output : Bytes) : Prop :=
  ∃ (pieces : List Bytes) (count : Nat),
    answers = pieces.map .ok ++ List.replicate count (.error truncated) ∧
    (∀ piece ∈ pieces, piece ≠ []) ∧ pieces.flatten <+: output ∧
    (1 ≤ count → pieces.flatten = output)

/-- One more piece may come first. -/
theorem BreaksOff.cons {answers : List (Except Fault Bytes)} {output piece : Bytes}
    (h : BreaksOff answers output) (hpiece : piece ≠ []) :
    BreaksOff (.ok piece :: answers) (piece ++ output) := by
  obtain ⟨pieces, count, rfl, hfilled, hfront, hall⟩ := h
  refine ⟨piece :: pieces, count, rfl, List.forall_mem_cons.mpr ⟨hpiece, hfilled⟩, ?_,
    fun hsome => ?_⟩
  · rw [List.flatten_cons, List.prefix_append_right_inj]
    exact hfront
  · rw [List.flatten_cons, hall hsome]

/-- The report may come first if there is no output. -/
theorem BreaksOff.report {answers : List (Except Fault Bytes)} (h : BreaksOff answers []) :
    BreaksOff (.error truncated :: answers) [] := by
  obtain ⟨pieces, count, rfl, hfilled, hfront, -⟩ := h
  have hnone : pieces = [] := by
    refine List.eq_nil_iff_forall_not_mem.mpr fun piece hmem => hfilled piece hmem ?_
    exact List.flatten_eq_nil_iff.mp (List.prefix_nil.mp hfront) piece hmem
  subst hnone
  exact ⟨[], count + 1, rfl, nofun, List.nil_prefix, fun _ => rfl⟩

/-- There are no more pieces than bytes if every piece has some. -/
theorem pieces_le_bytes {pieces : List Bytes} (h : ∀ piece ∈ pieces, piece ≠ []) :
    pieces.length ≤ pieces.flatten.length := by
  induction pieces with
  | nil => exact Nat.le_refl _
  | cons piece pieces ih =>
    obtain ⟨hpiece, hpieces⟩ := List.forall_mem_cons.mp h
    have hsome := List.length_pos_iff.mpr hpiece
    have hothers := ih hpieces
    rw [List.flatten_cons, List.length_append, List.length_cons]
    omega

/-- With more reads than bytes the cut is reported. -/
theorem BreaksOff.reports {answers : List (Except Fault Bytes)} {output : Bytes}
    (h : BreaksOff answers output) (hmany : output.length < answers.length) :
    .error truncated ∈ answers := by
  obtain ⟨pieces, count, rfl, hfilled, hfront, -⟩ := h
  have hfew := pieces_le_bytes hfilled
  have hbytes := hfront.length_le
  rw [List.length_append, List.length_map, List.length_replicate] at hmany
  have hsome : count ≠ 0 := by omega
  exact List.mem_append_right _ (List.mem_replicate.mpr ⟨hsome, rfl⟩)

/-- A layer before a stream that is cut short gives its output and then reports the cut, at every
read. -/
theorem readEach_breaksOff (hr : reader.Gives offers) (hpatience : 3 ≤ patience)
    (hbuffer : 1 ≤ buffer) {rooms : List Nat} (hrooms : ∀ room ∈ rooms, 1 ≤ room)
    {state : ReaderState} {world : V} {later output : Bytes} (ho : offers world later)
    (h : state.Awaits True later ⟨output, some truncated⟩) :
    BreaksOff ((decoder patience buffer).readEach reader rooms state world) output := by
  induction rooms generalizing state world later output with
  | nil => exact ⟨[], 0, rfl, nofun, List.nil_prefix, nofun⟩
  | cons room rooms ih =>
    obtain ⟨hroom, hlater⟩ := List.forall_mem_cons.mp hrooms
    obtain ⟨rest, hanswers, hleft⟩ : ∃ rest,
        Answers True room rest ⟨output, some truncated⟩
          (((decoder patience buffer).read state room).run reader world).1 ∧
        offers (((decoder patience buffer).read state room).run reader world).2 rest :=
      (read_answers (fun _ => hpatience) hbuffer hroom h).run hr ho
    simp only [Decoder.readEach]
    rcases hread : ((decoder patience buffer).read state room).run reader world with
      ⟨⟨answer, after⟩, next⟩
    rw [hread] at hanswers hleft
    generalize hu : (⟨output, some truncated⟩ : Unpacked) = unpacked at hanswers
    cases hanswers with
    | @gives bytes remaining _ some fits awaits =>
      obtain ⟨left, fault⟩ := remaining
      obtain ⟨rfl, rfl⟩ := Unpacked.mk.inj hu
      exact (ih hlater hleft awaits).cons some
    | ends done => cases (Unpacked.mk.inj hu).2
    | fails wrong last =>
      subst hu
      obtain rfl := Option.some.inj (wrong trivial)
      obtain ⟨rfl, -, hagain⟩ := last trivial rfl
      exact (ih hlater hleft hagain).report

/-- A first part of a stream is a stream that is cut short. -/
theorem codes_cut_short {data cut : Bytes} (hfront : cut <+: BitField.pack (Packing.codes data))
    (hcut : cut ≠ BitField.pack (Packing.codes data)) :
    Unpacking.Steady {} false (BitQueue.join {} cut) ∧
      ∃ given, given <+: data ∧
        Unpacking.unpack {} (BitQueue.join {} cut) = ⟨given, some truncated⟩ := by
  obtain ⟨front, next, last, hcodes, hpasses⟩ := codes_passes data
  rw [hcodes] at hfront hcut
  obtain ⟨hbegins, hshort⟩ := BitQueue.begins_of_cut hfront hcut
  rw [BitField.totalWidth_append, BitField.totalWidth_cons] at hshort
  exact hpasses.cut_short hbegins hshort

variable {W : Type u} {writer : Writer W} {received : W → Bytes → Prop} {scratch : Nat}

/-- Of what an encoding layer puts out every first part but the whole is read as first bytes of the
data, and then every read reports that the stream is cut short. Which bytes these are depends on
the part alone, not on how they are asked for and handed out. If there are more reads than bytes
there is a report. -/
theorem cut_output_reads_as_truncated (hw : writer.Persists received) (hscratch : 1 ≤ scratch)
    {world : W} (hworld : received world []) (script : List Feed) :
    ∃ answers after last ended final,
      (∀ᶠ patience in Filter.atTop,
        (encoder patience scratch).performAll writer script {} world = (answers, after, last) ∧
        ((encoder patience scratch).finalize after).run writer last = ((.ok (), ended), final)) ∧
      received final (BitField.pack (Packing.codes (Feed.content script))) ∧
      ∀ cut, cut <+: BitField.pack (Packing.codes (Feed.content script)) →
        cut ≠ BitField.pack (Packing.codes (Feed.content script)) →
        ∃ given, given <+: Feed.content script ∧
          ∀ {V : Type v} {reader : Reader V} {offers : V → Bytes → Prop}, reader.Gives offers →
          ∀ {patience buffer : Nat}, 3 ≤ patience → 1 ≤ buffer →
          ∀ source, offers source cut → ∀ rooms : List Nat, (∀ room ∈ rooms, 1 ≤ room) →
            BreaksOff ((decoder patience buffer).readEach reader rooms {} source) given ∧
              (given.length < rooms.length →
                .error truncated ∈ (decoder patience buffer).readEach reader rooms {} source) := by
  obtain ⟨answers, after, last, ended, final, hrun, -, hfinal⟩ :=
    encoder_settles hw hscratch script Packing.new_carries hworld
  refine ⟨answers, after, last, ended, final, hrun, hfinal, fun cut hfront hcut => ?_⟩
  obtain ⟨hsteady, given, hgiven, hunpack⟩ := codes_cut_short hfront hcut
  refine ⟨given, hgiven, ?_⟩
  intro V reader offers hr patience buffer hpatience hbuffer source hsource rooms hrooms
  have hnew := awaits_new cut fun _ : True => hsteady
  rw [hunpack] at hnew
  have hbreaks := readEach_breaksOff hr hpatience hbuffer hrooms hsource hnew
  have hlength := Decoder.length_readEach (decoder patience buffer) reader rooms {} source
  exact ⟨hbreaks, fun hmany => hbreaks.reports (Nat.lt_of_lt_of_eq hmany hlength.symm)⟩

/-- The first three of the four bytes for a letter are read as that letter or nothing, and then as
cut short. -/
theorem cut_letter_reads_as_truncated :
    let sink : EncoderStack 0 × Outlet ScriptedSink :=
      (.bottom, { sink := { script := .failsFirst 2 (.bare .interrupted) }, attached := true })
    let source : DecoderStack 0 × Inlet Bytes := (.bottom, { source := [0, 131, 4] })
    ScriptedSink.Interrupts 2 (.bare .interrupted) sink [] ∧
      ∃ given, given <+: [65] ∧
        BreaksOff ((decoder 3 1).readEach (DecoderStack.reader 0) [1, 2, 3] {} source) given ∧
        .error truncated ∈ (decoder 3 1).readEach (DecoderStack.reader 0) [1, 2, 3] {} source := by
  intro sink source
  have hsink : ScriptedSink.Interrupts 2 (.bare .interrupted) sink [] := ⟨rfl, rfl, rfl⟩
  have hpersists : (EncoderStack.writer 0).Persists
      (ScriptedSink.Interrupts 2 (.bare .interrupted)) := ScriptedSink.persists rfl
  have hgives := DecoderStack.reader_gives Bytes.supplies 0
  have hsource : DecoderStack.Offers (fun rest data => rest = data) source [0, 131, 4] :=
    ⟨_, rfl, rfl⟩
  obtain ⟨answers, after, last, ended, final, -, -, hcut⟩ :=
    cut_output_reads_as_truncated hpersists (Nat.le_refl 1) hsink [.piece [65]]
  obtain ⟨given, hgiven, hread⟩ := hcut [0, 131, 4] (by decide) (by decide)
  obtain ⟨hbreaks, hreports⟩ :=
    hread hgives (Nat.le_refl 3) (Nat.le_refl 1) source hsource [1, 2, 3] (by decide)
  have hfew : given.length < 3 := Nat.lt_of_le_of_lt hgiven.length_le (by decide)
  exact ⟨hsink, given, hgiven, hbreaks, hreports hfew⟩

end Lzw

end ContentCoding
