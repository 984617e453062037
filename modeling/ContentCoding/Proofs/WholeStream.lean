import ContentCoding.Proofs.Buffering

/-!
# Whole streams through a buffered reader

A buffered reader may fill its buffer ahead of time, decode ahead of what is asked for, stop at
boundaries and pause. None of this shows in what it gives: whatever is buffered, what waits and
what is still to be decoded are together the data that are left, and nothing is lost or decoded
twice. A stream may also end where the reader below does, if the coding takes that for an end.

The main statement is that a buffered reader recovers what its coding decodes a whole stream to,
whatever its rule is and whatever pieces the stream comes in. The bound on the reads of one call
has to cover the stream, for parts of it may give no output.
-/

namespace ContentCoding

namespace Transducer

variable {coding : Transducer} {state next : coding.State} {encoded data : Bytes}

/-- A stream that has been decoded to its end is decoded from the next state on behind a byte, or
ends with it. -/
theorem of_decodeFrom_cons {byte : UInt8}
    (h : coding.decodeFrom state (byte :: encoded) = ⟨data, none⟩) :
    (∃ more next later, coding.feed state byte = .running more next ∧ data = more ++ later ∧
      coding.decodeFrom next encoded = ⟨later, none⟩) ∨
    coding.feed state byte = .finished data := by
  rw [decodeFrom] at h
  cases hfeed : coding.feed state byte with
  | running more next =>
    rw [hfeed] at h
    obtain ⟨hdata, hnone⟩ := Decoded.mk.inj h
    exact .inl ⟨more, next, _, rfl, hdata.symm, congrArg (Decoded.mk _) hnone⟩
  | finished more =>
    rw [hfeed] at h
    exact .inr (congrArg _ (Decoded.mk.inj h).1)
  | failed failure =>
    rw [hfeed] at h
    cases (Decoded.mk.inj h).2

/-- A stream that has been decoded ends well where nothing is left. -/
theorem of_decodeFrom_nil (h : coding.decodeFrom state [] = ⟨data, none⟩) :
    data = [] ∧ coding.ending state = .ok () := by
  rw [decodeFrom] at h
  split at h
  · rename_i hending
    exact ⟨(Decoded.mk.inj h).1.symm, hending⟩
  · cases (Decoded.mk.inj h).2

end Transducer

namespace Buffered

variable {coding : Transducer}

/-- A reader over encoded bytes has some of the data waiting, and what it has buffered decodes to
the others together with these bytes. There are none below a reader that has seen their end. -/
def Decodes (reader : Buffered coding.State) (encoded data : Bytes) : Prop :=
  match reader.progress with
  | .running state =>
    (∃ later, data = reader.output ++ later ∧
      coding.decodeFrom state (reader.encoded ++ encoded) = ⟨later, none⟩) ∧
    (reader.exhausted = true → encoded = [])
  | .finished => data = reader.output
  | .failed _ => False

variable {pause : coding.State → Bool} {encoded data : Bytes}

/-- Absorbing bytes puts output behind that which is waiting. It goes on until the reader is ready
or its buffer is empty. -/
theorem absorb_decodes {boundary : coding.State → Bool} {exhausted : Bool} {wanted : Nat}
    (hwanted : 1 ≤ wanted) {state : coding.State} {buffer output : Bytes}
    (h : coding.decodeFrom state (buffer ++ encoded) = ⟨data, none⟩)
    (hbelow : exhausted = true → encoded = []) :
    let reader := absorb (fun state waiting => pause state || waiting && boundary state) exhausted
      wanted state buffer output
    reader.Decodes encoded (output.reverse ++ data) ∧ reader.exhausted = exhausted ∧
      (reader.isReady pause = true ∨ reader.encoded = []) := by
  induction buffer generalizing wanted state output data with
  | nil => exact ⟨⟨⟨data, rfl, h⟩, hbelow⟩, rfl, .inr rfl⟩
  | cons byte buffer ih =>
    obtain ⟨more, next, later, hfeed, rfl, hlater⟩ | hfeed := Transducer.of_decodeFrom_cons h
    · have hout : output.reverse ++ (more ++ later) = (more.reverseAux output).reverse ++ later := by
        rw [Bytes.reverse_reverseAux, List.append_assoc]
      simp only [absorb, hfeed]
      rw [hout]
      split
      · rename_i hstops
        refine ⟨⟨⟨later, rfl, hlater⟩, hbelow⟩, rfl, .inl ?_⟩
        by_cases hnone : more.reverseAux output = []
        · -- where nothing waits there is no boundary, and not enough output yet
          obtain ⟨rfl, rfl⟩ : more = [] ∧ output = [] := by
            simpa [List.reverseAux_eq] using hnone
          have hmore : wanted ≠ 0 := Nat.one_le_iff_ne_zero.mp hwanted
          simpa [hmore, isReady] using hstops
        · exact isReady_of_output _ fun hempty => hnone (List.reverse_eq_nil_iff.mp hempty)
      · rename_i hstops
        have hmore : wanted - more.length ≠ 0 := by
          rw [Bool.or_eq_true, decide_eq_true_eq] at hstops
          exact fun hzero => hstops (.inl hzero)
        exact ih (Nat.one_le_iff_ne_zero.mpr hmore) hlater
    · simp only [absorb, hfeed]
      exact ⟨(Bytes.reverse_reverseAux data output).symm, trivial, .inl rfl⟩

variable {rule : ReadRule coding.State} {wanted : Nat}

/-- Settling a reader keeps what it decodes. If it is not ready then, it needs bytes from below. -/
theorem conclude_decodes {reader : Buffered coding.State} (h : reader.Decodes encoded data)
    (hready : reader.isReady pause = true ∨ reader.encoded = []) :
    reader.conclude.Decodes encoded data ∧
      (reader.conclude.isReady pause = true ∨
        reader.exhausted = false ∧ ∃ state, reader.conclude = ⟨.running state, [], [], false⟩) := by
  obtain ⟨progress, buffer, output, exhausted⟩ := reader
  cases progress with
  | failed failure => exact h.elim
  | finished => exact ⟨h, .inl rfl⟩
  | running state =>
    cases output with
    | cons byte output =>
      have hsame : conclude ⟨.running state, buffer, byte :: output, exhausted⟩ =
          ⟨.running state, buffer, byte :: output, exhausted⟩ := by
        cases buffer <;> rfl
      rw [hsame]
      exact ⟨h, .inl rfl⟩
    | nil =>
      cases buffer with
      | cons byte buffer => exact ⟨h, .inl (hready.resolve_right (List.cons_ne_nil _ _))⟩
      | nil =>
        cases exhausted with
        | false => exact ⟨h, .inr ⟨rfl, state, rfl⟩⟩
        | true =>
          obtain ⟨⟨later, rfl, hlater⟩, hbelow⟩ := h
          obtain rfl := hbelow rfl
          obtain ⟨rfl, hending⟩ := Transducer.of_decodeFrom_nil hlater
          have hsettled : conclude ⟨.running state, [], [], true⟩ =
              ⟨.finished, [], [], true⟩ := by
            rw [conclude, hending]
          rw [hsettled]
          exact ⟨rfl, .inl rfl⟩

/-- Decoding what is buffered keeps what a reader decodes. If it is not ready then, it needs bytes
from below. -/
theorem advance_decodes (hwanted : 1 ≤ wanted) {reader : Buffered coding.State}
    (h : reader.Decodes encoded data) :
    (reader.advance rule pause wanted).Decodes encoded data ∧
      ((reader.advance rule pause wanted).isReady pause = true ∨
        reader.exhausted = false ∧
          ∃ state, reader.advance rule pause wanted = ⟨.running state, [], [], false⟩) := by
  obtain ⟨progress, buffer, output, exhausted⟩ := reader
  cases progress with
  | failed failure => exact h.elim
  | finished => exact ⟨h, .inl rfl⟩
  | running state =>
    cases output with
    | cons byte output => exact ⟨h, .inl rfl⟩
    | nil =>
      by_cases hpause : pause state = true
      · have hsame : advance rule pause wanted ⟨.running state, buffer, [], exhausted⟩ =
            ⟨.running state, buffer, [], exhausted⟩ := if_pos hpause
        rw [hsame]
        exact ⟨h, .inl hpause⟩
      · obtain ⟨⟨later, hdata, hlater⟩, hbelow⟩ := h
        obtain ⟨hdecodes, hsame, hready⟩ := @absorb_decodes coding pause encoded later rule.boundary
          exhausted (max wanted rule.lookahead) (Nat.le_trans hwanted (Nat.le_max_left _ _)) state
          buffer [] hlater hbelow
        have hwhole : ([] : Bytes).reverse ++ later = data := hdata.symm
        rw [hwhole] at hdecodes
        obtain ⟨hsettled, hanswers⟩ := conclude_decodes hdecodes hready
        rw [advance, if_neg hpause]
        exact ⟨hsettled, hanswers.imp_right (And.imp_left hsame.symm.trans)⟩

/-- Bytes from below are buffered, and none of them are its end. -/
theorem receive_decodes {reader : Buffered coding.State} (hempty : reader.encoded = [])
    {room given : Nat} (hgiven : encoded.MayGive room given) (h : reader.Decodes encoded data) :
    (reader.receive (encoded.take given)).Decodes (encoded.drop given) data := by
  obtain ⟨progress, buffer, output, exhausted⟩ := reader
  subst hempty
  cases htaken : encoded.take given with
  | nil =>
    have hnone : encoded = [] := by
      rw [List.take_eq_nil_iff] at htaken
      by_contra hsome
      have hpositive := hgiven.2.2 hsome
      exact htaken.elim (by omega) hsome
    subst hnone
    rw [List.drop_nil]
    cases progress with
    | running state => exact ⟨h.1, fun _ => rfl⟩
    | finished => exact h
    | failed failure => exact h
  | cons byte bytes =>
    cases progress with
    | running state =>
      obtain ⟨⟨later, hdata, hlater⟩, hbelow⟩ := h
      refine ⟨⟨later, hdata, ?_⟩, fun hend => ?_⟩
      · rw [← List.take_append_drop given encoded, htaken] at hlater
        exact hlater
      · rw [hbelow hend, List.drop_nil]
    | finished => exact h
    | failed failure => exact h

/-- Filling makes a reader ready, if so many reads are allowed that each byte below could take one,
and one finds the end. -/
theorem fill_decodes (hroomy : 1 ≤ rule.bufferSize) (hwanted : 1 ≤ wanted) {reads : Nat}
    {reader : Buffered coding.State}
    (hreads : reader.exhausted = false → encoded.length < reads)
    (h : reader.Decodes encoded data) :
    (fill rule pause wanted reads reader).Consumes (fun result rest =>
      result.1 = .ok () ∧ result.2.isReady pause = true ∧ result.2.Decodes rest data ∧
        rest.length ≤ encoded.length) encoded := by
  -- each read brings a byte or the end, behind which nothing is read
  induction reads generalizing reader encoded with
  | zero =>
    obtain ⟨hdecodes, hready⟩ := advance_decodes hwanted h
    have hanswers := hready.resolve_right fun hneeds => absurd (hreads hneeds.1) (Nat.not_lt_zero _)
    rw [fill, if_pos hanswers]
    exact ⟨rfl, hanswers, hdecodes, Nat.le_refl _⟩
  | succ reads ih =>
    obtain ⟨hdecodes, hready⟩ := advance_decodes hwanted h
    rw [fill]
    split
    · rename_i hanswers
      exact ⟨rfl, hanswers, hdecodes, Nat.le_refl _⟩
    · rename_i hneeds
      obtain ⟨hopen, state, hrunning⟩ := hready.resolve_left hneeds
      have hbound := hreads hopen
      rw [hrunning] at hdecodes ⊢
      refine ⟨hroomy, fun given hgiven => ?_⟩
      have hreceived := receive_decodes rfl hgiven hdecodes
      have hlength : (encoded.drop given).length ≤ encoded.length := by
        rw [List.length_drop]
        exact Nat.sub_le _ _
      refine (ih (fun hstill => ?_) hreceived).mono fun result rest hresult => ?_
      · have hsome : encoded ≠ [] := by
          rintro rfl
          rw [List.take_nil] at hstill
          cases hstill
        have hpositive := hgiven.2.2 hsome
        have hlonger := List.length_pos_iff.mpr hsome
        rw [List.length_drop]
        omega
      · obtain ⟨hanswer, hanswers, hkept, hless⟩ := hresult
        exact ⟨hanswer, hanswers, hkept, Nat.le_trans hless hlength⟩

/-- A ready reader answers with the next bytes of the data. -/
theorem answer_decodes {room : Nat} (hroom : 1 ≤ room) {reader : Buffered coding.State}
    (hready : reader.isReady (fun _ => false) = true) (h : reader.Decodes encoded data) :
    ∃ given, data.MayGive room given ∧ (reader.answer room).1 = .ok (data.take given) ∧
      (reader.answer room).2.Decodes encoded (data.drop given) := by
  obtain ⟨progress, buffer, output, exhausted⟩ := reader
  cases progress with
  | failed failure => exact h.elim
  | finished =>
    obtain rfl : data = output := h
    obtain ⟨hgiven, htake, hdrop⟩ := @Bytes.mayGive_waiting room hroom data [] fun _ => rfl
    rw [List.append_nil] at hgiven htake hdrop
    rw [List.append_nil] at hdrop
    exact ⟨_, hgiven, congrArg Except.ok htake.symm, hdrop⟩
  | running state =>
    cases output with
    | nil => exact absurd hready Bool.false_ne_true
    | cons byte output =>
      obtain ⟨⟨later, rfl, hlater⟩, hbelow⟩ := h
      obtain ⟨hgiven, htake, hdrop⟩ := @Bytes.mayGive_waiting room hroom (byte :: output) later nofun
      exact ⟨_, hgiven, congrArg Except.ok htake.symm, ⟨later, hdrop, hlater⟩, hbelow⟩

/-- Serving gives the next bytes of the data, and leaves a reader that decodes the rest. -/
theorem serve_decodes (hroomy : 1 ≤ rule.bufferSize) {room : Nat} (hroom : 1 ≤ room)
    {reader : Buffered coding.State} (hpatience : encoded.length < rule.patience)
    (h : reader.Decodes encoded data) :
    (reader.serve rule (fun _ => false) room).Consumes (fun result rest =>
      ∃ given, data.MayGive room given ∧ result.1 = .ok (data.take given) ∧
        result.2.Decodes rest (data.drop given) ∧ rest.length < rule.patience) encoded := by
  have hfill := @fill_decodes _ (fun _ => false) _ _ _ _ hroomy hroom _ _ (fun _ => hpatience) h
  rw [serve]
  refine Pull.Consumes.map (hfill.mono ?_)
  rintro ⟨answer, after⟩ rest ⟨hanswer, hready, hdecodes, hless⟩
  dsimp only at hanswer
  subst hanswer
  obtain ⟨given, hgiven, hgives, hleft⟩ := answer_decodes hroom hready hdecodes
  exact ⟨given, hgiven, hgives, hleft, Nat.lt_of_le_of_lt hless hpatience⟩

/-- A read with room gives the next bytes of the data, also if it fills its buffer first. -/
theorem read_decodes (hroomy : 1 ≤ rule.bufferSize) {room : Nat} (hroom : 1 ≤ room)
    {reader : Buffered coding.State} (hpatience : encoded.length < rule.patience)
    (h : reader.Decodes encoded data) :
    (Buffered.read rule reader room).Consumes (fun result rest =>
      ∃ given, data.MayGive room given ∧ result.1 = .ok (data.take given) ∧
        result.2.Decodes rest (data.drop given) ∧ rest.length < rule.patience) encoded := by
  have hne : room ≠ 0 := Nat.one_le_iff_ne_zero.mp hroom
  rw [Buffered.read, if_neg hne]
  split
  · rw [refill]
    split
    · rename_i hempty
      obtain ⟨hbuffer, -⟩ := Bool.and_eq_true_iff.mp hempty
      refine ⟨hroomy, fun given hgiven => ?_⟩
      have hreceived := receive_decodes (List.isEmpty_iff.mp hbuffer) hgiven h
      refine serve_decodes hroomy hroom (Nat.lt_of_le_of_lt ?_ hpatience) hreceived
      rw [List.length_drop]
      exact Nat.sub_le _ _
    · exact serve_decodes hroomy hroom hpatience h
  · exact serve_decodes hroomy hroom hpatience h

/-- A layer recovers what its reader decodes. -/
theorem Decodes.recovers (hroomy : 1 ≤ rule.bufferSize) {reader : Buffered coding.State}
    (hpatience : encoded.length < rule.patience) (h : reader.Decodes encoded data) :
    (coding.decoder rule).Recovers reader encoded data := by
  refine ⟨fun reader encoded data => Decodes reader encoded data ∧ encoded.length < rule.patience,
    ?_, h, hpatience⟩
  rintro (reader : Buffered coding.State) encoded data room hroom ⟨hdecodes, hbound⟩
  exact read_decodes hroomy hroom hbound hdecodes

/-- A reader that has not read anything decodes what its coding does. -/
theorem fresh_decodes (h : coding.decodeFrom coding.start encoded = ⟨data, none⟩) :
    coding.fresh.Decodes encoded data :=
  ⟨⟨data, rfl, h⟩, nofun⟩

end Buffered

end ContentCoding
