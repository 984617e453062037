import ContentCoding.Proofs.Flow
import ContentCoding.Proofs.Lzw.Layer

/-!
# LZW layers over streams that may break

If no clear code follows another, what a decoding layer makes of a stream depends on
the stream alone. Of a stream that ends it makes what the stream unpacks to. The fault
of a stream without an end code comes after the last byte, that of a code that cannot
occur in place of all bytes that were decoded with it.

A stream that breaks has to break before its end code and before any code that cannot
occur. As soon as its buffer is used up the layer reads below, also if such a code is
among the bits that it holds, or if there are decoded bytes that the caller had no room
for. So behind that code a fault below would be seen or not according to the pieces, and
before it decoded bytes may be lost.
-/

namespace ContentCoding.Lzw

/-- What becomes of a stream that ends in some way and unpacks to something. -/
inductive Unpacked.Becomes : Ending → Unpacked → Flow → Prop
  /-- There is an end code. -/
  | ended {output : Bytes} : Becomes .closed ⟨output, none⟩ ⟨output, .closed⟩
  /-- There is none. -/
  | cut {output : Bytes} :
      Becomes .closed ⟨output, some truncated⟩ ⟨output, .broken truncated false rfl⟩
  /-- A code that cannot occur comes first. -/
  | invalid {output : Bytes} :
      Becomes .closed ⟨output, some invalidCode⟩ ⟨output, .broken invalidCode true rfl⟩
  /-- The stream breaks before any of these. -/
  | broken {output : Bytes} {fault : Fault} {sudden : Bool}
      {lasting : fault.isInterruption = false} :
      Becomes (.broken fault sudden lasting) ⟨output, some truncated⟩
        ⟨output, .broken fault true lasting⟩

/-- What an LZW layer makes of a stream in which no clear code follows another. -/
def Turns (source flow : Flow) : Prop :=
  Unpacking.Steady {} false (BitQueue.join {} source.bytes) ∧
    Unpacked.Becomes source.ending (Unpacking.unpack {} (BitQueue.join {} source.bytes)) flow

variable {room reads : Nat} {known flow : Flow} {unpacked : Unpacked} {decoding : Decoding}
variable {input : Bytes} {exhausted : Bool} {answer : Except Fault Bytes} {state : ReaderState}

/-- The next bytes of what is unpacked are the next bytes of what becomes of it. -/
theorem Unpacked.Becomes.gives {ending : Ending} {bytes : Bytes}
    (h : Becomes ending (unpacked.after bytes) flow) (filled : bytes ≠ [])
    (fits : bytes.length ≤ room) :
    ∃ rest, flow.Hands room (.ok bytes) (some rest) ∧ Becomes ending unpacked rest := by
  obtain ⟨output, fault⟩ := unpacked
  cases h with
  | ended => exact ⟨_, .gives filled fits, .ended⟩
  | cut => exact ⟨_, .gives filled fits, .cut⟩
  | invalid => exact ⟨_, .gives filled fits, .invalid⟩
  | broken => exact ⟨_, .gives filled fits, .broken⟩

/-- Between two reads the layer has a stream before it of which a flow is to become. It has seen
the end of the stream below only if there is one. -/
def ReaderState.Converts (state : ReaderState) (source : Option Flow) (flow : Flow) : Prop :=
  ∃ known unpacked, source = some known ∧ state.Awaits True known.bytes unpacked ∧
    (state.exhausted = true → known.ending = .closed) ∧
    Unpacked.Becomes known.ending unpacked flow

/-- A read is answered as the flow is, and what is left of it is to become of the stream. -/
def Continues (room : Nat) (flow : Flow) (result : Except Fault Bytes × ReaderState)
    (left : Option Flow) : Prop :=
  ∃ after, flow.Hands room result.1 after ∧
    ∀ rest, after = some rest → result.2.Converts left rest

/-- The right answer to a read is one of the flow. -/
theorem Answers.continues (h : Answers True room known.bytes unpacked (answer, state))
    (hend : state.exhausted = true → known.ending = .closed)
    (hb : Unpacked.Becomes known.ending unpacked flow) :
    Continues room flow (answer, state) (some known) := by
  obtain ⟨bytes, ending⟩ := known
  cases h with
  | gives filled fits awaits =>
    obtain ⟨rest, hhands, hrest⟩ := hb.gives filled fits
    refine ⟨some rest, hhands, ?_⟩
    rintro _ ⟨⟩
    exact ⟨_, _, rfl, awaits, hend, hrest⟩
  | ends done =>
    cases hb with
    | ended =>
      refine ⟨_, .ends, ?_⟩
      rintro _ ⟨⟩
      exact ⟨_, ⟨[], none⟩, rfl, .inl ⟨done, rfl⟩, hend, .ended⟩
  | fails wrong last =>
    have hwrong := wrong trivial
    cases hb with
    | ended => cases hwrong
    | cut =>
      cases hwrong
      exact ⟨none, .breaks (.inr (last trivial rfl).1), nofun⟩
    | invalid =>
      cases hwrong
      exact ⟨none, .breaks (.inl rfl), nofun⟩
    | broken =>
      -- the layer has not seen an end below, so it does not take the stream for cut short
      cases hwrong
      cases hend (last trivial rfl).2.1

/-- Calling the decoder does not change whether the end below has been seen. -/
theorem attempt_exhausted (h : attempt room exhausted decoding input = .answered answer state) :
    state.exhausted = exhausted := by
  fun_induction attempt room exhausted decoding input with
  | case6 =>
    rename_i ih
    exact ih h
  | _ => cases h <;> rfl

/-- Calling the decoder with what is in the buffer answers the read, or it is worth while to read
below. -/
theorem attempt_continues (h : Ready True reads input known.bytes decoding unpacked)
    (hroom : 1 ≤ room) (hexhausted : exhausted = true → input = [] ∧ known = ⟨[], .closed⟩)
    (hb : Unpacked.Becomes known.ending unpacked flow) :
    match attempt room exhausted decoding input with
    | .answered answer state => Continues room flow (answer, state) (some known)
    | .starved decoding =>
      exhausted = false ∧ 1 ≤ reads ∧ Ready True reads [] known.bytes decoding unpacked := by
  have hanswers := attempt_answers h hroom fun hdone =>
    ⟨(hexhausted hdone).1, congrArg Flow.bytes (hexhausted hdone).2⟩
  cases ha : attempt room exhausted decoding input with
  | answered answer state =>
    rw [ha] at hanswers
    refine hanswers.continues (fun hdone => ?_) hb
    rw [attempt_exhausted ha] at hdone
    rw [(hexhausted hdone).2]
  | starved decoding =>
    rw [ha] at hanswers
    exact ⟨hanswers.1, hanswers.2.1 trivial, hanswers.2.2⟩

/-- Reading below and calling the decoder answers the read, or finds the stream below broken. -/
theorem readRounds_continues {buffer : Nat} (hbuffer : 1 ≤ buffer) (hroom : 1 ≤ room)
    (h : Ready True reads [] known.bytes decoding unpacked) (hreads : 1 ≤ reads)
    (hb : Unpacked.Becomes known.ending unpacked flow) :
    (readRounds buffer room reads decoding).Draws (Continues room flow) (some known) := by
  induction reads generalizing decoding known with
  | zero => exact absurd hreads (Nat.not_succ_le_zero 0)
  | succ reads ih =>
    refine ⟨hbuffer, fun below left hhands => ?_⟩
    cases hhands with
    | @gives given rest ending filled fits =>
      have hfalse : given.isEmpty = false := by simpa using filled
      have hcontinues := @attempt_continues room reads ⟨rest, ending⟩ flow unpacked decoding given
        false (h.fed filled) hroom nofun hb
      dsimp only
      rw [hfalse]
      cases ha : attempt room false decoding given with
      | answered answer state =>
        rw [ha] at hcontinues
        exact hcontinues
      | starved decoding =>
        rw [ha] at hcontinues
        exact ih hcontinues.2.2 hcontinues.2.1 hb
    | ends =>
      have hcontinues := @attempt_continues room (reads + 1) ⟨[], .closed⟩ flow unpacked decoding []
        true h hroom (fun _ => ⟨rfl, rfl⟩) hb
      dsimp only
      rw [List.isEmpty_nil]
      cases ha : attempt room true decoding [] with
      | answered answer state =>
        rw [ha] at hcontinues
        exact hcontinues
      | starved decoding =>
        rw [ha] at hcontinues
        cases hcontinues.1
    | breaks due =>
      cases hb with
      | broken => exact ⟨none, .breaks (.inl rfl), nofun⟩

/-- A layer with room in its buffer, and patience for three reads, respects what is to become of
streams. -/
theorem decoder_converting {patience buffer : Nat} (hpatience : 3 ≤ patience)
    (hbuffer : 1 ≤ buffer) : (decoder patience buffer).Converting ReaderState.Converts := by
  rintro (state : ReaderState) _ flow room hroom ⟨known, unpacked, rfl, hawaits, hend, hb⟩
  obtain ⟨decoding, input, exhausted, done⟩ := state
  have hzero : ¬room = 0 := Nat.one_le_iff_ne_zero.mp hroom
  rcases hawaits with ⟨hdone, rfl⟩ | ⟨hopen, hexhausted, hready⟩
  · obtain rfl : done = true := hdone
    simp only [decoder, hzero, decide_false, Bool.or_true, if_true]
    exact Answers.continues (.ends rfl) hend hb
  · obtain rfl : done = false := hopen
    dsimp only at hexhausted hready hend
    have hpatient := hready.mono fun _ : True => hpatience
    have hwhole : exhausted = true → input = [] ∧ known = ⟨[], .closed⟩ := fun hdone =>
      ⟨(hexhausted hdone).1, by rw [← (hexhausted hdone).2, ← hend hdone]⟩
    simp only [decoder, hzero, decide_false, Bool.or_false, Bool.false_eq_true, if_false]
    rw [ReaderState.serve]
    dsimp only
    split
    · rename_i hempty
      obtain rfl : input = [] := by
        simpa using (Bool.and_eq_true_iff.mp hempty).1
      exact readRounds_continues hbuffer hroom hpatient (Nat.le_trans (by decide) hpatience) hb
    · have hcontinues := attempt_continues hpatient hroom hwhole hb
      cases ha : attempt room exhausted decoding input with
      | answered answer state =>
        rw [ha] at hcontinues
        exact hcontinues
      | starved decoding =>
        rw [ha] at hcontinues
        exact readRounds_continues hbuffer hroom hcontinues.2.2 hcontinues.2.1 hb

/-- A new layer converts a stream into what becomes of it. -/
theorem Turns.converts {patience buffer : Nat} (hpatience : 3 ≤ patience) (hbuffer : 1 ≤ buffer)
    (h : Turns known flow) : (decoder patience buffer).Converts {} (some known) flow :=
  ⟨_, decoder_converting hpatience hbuffer, known, _, rfl, awaits_new known.bytes fun _ => h.1,
    nofun, h.2⟩

end ContentCoding.Lzw
