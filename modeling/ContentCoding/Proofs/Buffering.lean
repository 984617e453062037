import ContentCoding.Decode.Buffered
import ContentCoding.Proofs.Recovery

/-!
# What a buffered reader recovers

A transducer yields data from encoded bytes if it gives them one piece after
another and then finishes, and never takes more than so many bytes in a row
without any output. The bound is what the patience of a buffered reader has to
cover, since each of its reads below brings one byte at least.

The main statement is that the buffered reader of a transducer then recovers the
data, for every buffer and whatever pieces the encoded bytes come in.
-/

namespace ContentCoding

namespace Transducer

variable (coding : Transducer)

/-- Fed with the encoded bytes from a state, a transducer finishes and has given the data. At
first it takes at most `left` bytes without output, and after each output at most `limit`. -/
def Yields (limit : Nat) : (left : Nat) → coding.State → Bytes → Bytes → Prop
  | _, _, [], _ => False
  | left, state, byte :: encoded, data =>
    match coding.feed state byte with
    | .running [] next => ∃ fewer, left = fewer + 1 ∧ Yields limit fewer next encoded data
    | .running output next => ∃ later, data = output ++ later ∧ Yields limit limit next encoded later
    | .finished output => data = output
    | .failed _ => False

variable {coding} {limit left : Nat} {state : coding.State} {encoded data : Bytes}

/-- A stream that yields data has a byte. -/
theorem Yields.ne_nil (h : coding.Yields limit left state encoded data) : encoded ≠ [] := by
  rintro rfl
  exact h

end Transducer

/-- A reader handles its output plainly: it hands out output as soon as there is any, and asks for
more only when there is none. -/
structure ReadRule.IsPlain {S : Type} (rule : ReadRule S) : Prop where
  /-- There is room in the buffer. -/
  roomy : 1 ≤ rule.bufferSize
  /-- No state holds output back. -/
  noBoundary : ∀ state, rule.boundary state = false
  /-- A read that can be answered asks for nothing. -/
  noPrefetch : ∀ progress, rule.prefetches progress = false

namespace Buffered

variable {coding : Transducer}

/-- A reader over encoded bytes has some of the data waiting and gets the others from its buffer
and the encoded bytes. As long as none are waiting, at most `left` bytes come without output. -/
def Holds (limit left : Nat) (reader : Buffered coding.State) (encoded data : Bytes) : Prop :=
  match reader.progress with
  | .running state =>
    reader.exhausted = false ∧ ∃ later, data = reader.output ++ later ∧
      ∃ quiet, quiet ≤ (if reader.output = [] then left else limit) ∧
        coding.Yields limit quiet state (reader.encoded ++ encoded) later
  | .finished => data = reader.output
  | .failed _ => False

variable {limit left : Nat} {encoded data : Bytes}

/-- A reader with output waiting can answer. -/
theorem isReady_of_output (pause : coding.State → Bool) {reader : Buffered coding.State}
    (h : reader.output ≠ []) : reader.isReady pause = true := by
  obtain ⟨progress, buffer, output, exhausted⟩ := reader
  cases output with
  | nil => exact absurd rfl h
  | cons byte output => cases progress <;> rfl

/-- Absorbing bytes puts output behind that which is waiting. Unless the reader can answer then,
all bytes are used up and all of them were without output. -/
theorem absorb_holds {stops : coding.State → Bool → Bool}
    (hstops : ∀ state waiting, stops state waiting = false) {wanted : Nat} (hwanted : 1 ≤ wanted)
    {state : coding.State} {buffer output : Bytes} (hleft : left ≤ limit)
    (h : coding.Yields limit left state (buffer ++ encoded) data) :
    ∃ quiet, quiet ≤ limit ∧
      (absorb stops false wanted state buffer output).exhausted = false ∧
      (absorb stops false wanted state buffer output).Holds limit quiet encoded
        (output.reverse ++ data) ∧
      ((absorb stops false wanted state buffer output).isReady (fun _ => false) = true ∨
        output = [] ∧ (absorb stops false wanted state buffer output).encoded = [] ∧
          quiet + buffer.length ≤ left) := by
  induction buffer generalizing wanted state output data left with
  | nil =>
    refine ⟨left, hleft, rfl, ⟨rfl, data, rfl, left, ?_, h⟩, ?_⟩
    · split
      · exact Nat.le_refl _
      · exact hleft
    · cases output with
      | nil => exact .inr ⟨rfl, rfl, Nat.le_refl _⟩
      | cons byte output => exact .inl (isReady_of_output _ (by simp [absorb]))
  | cons byte buffer ih =>
    rw [List.cons_append, Transducer.Yields] at h
    rw [absorb]
    cases hfeed : coding.feed state byte with
    | failed failure =>
      rw [hfeed] at h
      exact h.elim
    | finished more =>
      rw [hfeed] at h
      subst h
      refine ⟨left, hleft, rfl, ?_, .inl rfl⟩
      simp only [Holds, List.reverseAux_eq, List.reverse_append, List.reverse_reverse]
    | running more next =>
      rw [hfeed] at h
      simp only [hstops, Bool.or_false, decide_eq_true_eq]
      cases more with
      | nil =>
        obtain ⟨fewer, rfl, hyields⟩ := h
        have hmore : ¬ wanted - ([] : Bytes).length = 0 := by
          rw [List.length_nil]
          omega
        rw [if_neg hmore]
        obtain ⟨quiet, hquiet, hopen, hholds, hready⟩ :=
          @ih _ data _ hwanted next output (Nat.le_of_succ_le hleft) hyields
        refine ⟨quiet, hquiet, hopen, hholds, hready.imp_right ?_⟩
        rintro ⟨hnone, hused, hcount⟩
        exact ⟨hnone, hused, Nat.succ_le_succ hcount⟩
      | cons first more =>
        obtain ⟨later, rfl, hyields⟩ := h
        have hout : (more.reverseAux (first :: output)).reverse ++ later =
            output.reverse ++ (first :: more ++ later) := by
          rw [List.reverseAux_eq, List.reverse_append, List.reverse_reverse, List.reverse_cons]
          simp only [List.append_assoc, List.cons_append, List.nil_append]
        have hsome : more.reverseAux (first :: output) ≠ [] := by
          simp [List.reverseAux_eq]
        split
        · refine ⟨limit, Nat.le_refl _, rfl, ⟨rfl, later, hout.symm, limit, ?_, hyields⟩, .inl ?_⟩
          · split <;> exact Nat.le_refl _
          · exact isReady_of_output _ (by simp [List.reverseAux_eq])
        · rename_i hmore
          obtain ⟨quiet, hquiet, hopen, hholds, hready⟩ :=
            @ih _ later _ (Nat.one_le_iff_ne_zero.mpr hmore) next
              (more.reverseAux (first :: output)) (Nat.le_refl limit) hyields
          rw [hout] at hholds
          exact ⟨quiet, hquiet, hopen, hholds, .inl (hready.resolve_right fun h => hsome h.1)⟩

/-- A reader that has not failed and whose source has not ended is as settled as it can be. -/
theorem conclude_of_open {reader : Buffered coding.State} (h : reader.exhausted = false) :
    reader.conclude = reader := by
  obtain ⟨progress, buffer, output, exhausted⟩ := reader
  cases h
  cases progress <;> cases buffer <;> cases output <;> rfl

variable {rule : ReadRule coding.State}

/-- Decoding what is buffered keeps the data in order. Unless the reader can answer then, all bytes
that were buffered came without output. -/
theorem advance_holds (hrule : rule.IsPlain) {room : Nat} (hroom : 1 ≤ room)
    {reader : Buffered coding.State} (hleft : left ≤ limit)
    (h : reader.Holds limit left encoded data) :
    ∃ quiet, quiet ≤ limit ∧
      (reader.advance rule (fun _ => false) room).Holds limit quiet encoded data ∧
      ((reader.advance rule (fun _ => false) room).isReady (fun _ => false) = true ∨
        (reader.advance rule (fun _ => false) room).encoded = [] ∧
          quiet + reader.encoded.length ≤ left) := by
  obtain ⟨progress, buffer, output, exhausted⟩ := reader
  cases progress with
  | failed failure => exact h.elim
  | finished => exact ⟨left, hleft, h, .inl rfl⟩
  | running state =>
    cases output with
    | cons byte output => exact ⟨left, hleft, h, .inl rfl⟩
    | nil =>
      obtain ⟨hopen, later, hdata, quiet, hquiet, hyields⟩ := h
      dsimp only at hopen hdata
      rw [List.nil_append] at hdata
      subst hopen hdata
      rw [if_pos rfl] at hquiet
      have hstops : ∀ (state : coding.State) waiting,
          (false || waiting && rule.boundary state) = false := by
        intro state waiting
        rw [hrule.noBoundary, Bool.and_false, Bool.false_or]
      obtain ⟨fewer, hfewer, hstill, hholds, hready⟩ :=
        @absorb_holds _ limit quiet encoded data
          (fun state waiting => false || waiting && rule.boundary state) hstops
          (max room rule.lookahead) (Nat.le_trans hroom (Nat.le_max_left _ _)) state buffer []
          (Nat.le_trans hquiet hleft) hyields
      simp only [advance, Bool.false_eq_true, if_false]
      rw [conclude_of_open hstill]
      refine ⟨fewer, hfewer, hholds, hready.imp_right ?_⟩
      rintro ⟨-, hused, hcount⟩
      exact ⟨hused, Nat.le_trans hcount hquiet⟩

/-- A reader that cannot answer and has used up its buffer has none of the data. -/
theorem eq_of_not_ready {reader : Buffered coding.State}
    (h : reader.Holds limit left encoded data)
    (hready : ¬ reader.isReady (fun _ => false) = true) (hused : reader.encoded = []) :
    ∃ state quiet, reader = ⟨.running state, [], [], false⟩ ∧ quiet ≤ left ∧
      coding.Yields limit quiet state encoded data := by
  obtain ⟨progress, buffer, output, exhausted⟩ := reader
  cases hused
  cases progress with
  | failed failure => exact h.elim
  | finished => exact absurd rfl hready
  | running state =>
    cases output with
    | cons byte output => exact absurd rfl hready
    | nil =>
      obtain ⟨hopen, later, hdata, quiet, hquiet, hyields⟩ := h
      dsimp only at hopen hdata
      rw [List.nil_append] at hdata
      subst hopen hdata
      exact ⟨state, quiet, rfl, hquiet, hyields⟩

/-- Filling ends with a reader that can answer, if its reads below cover the bytes that may come
without output. -/
theorem fill_consumes (hrule : rule.IsPlain) {room : Nat} (hroom : 1 ≤ room) {reads : Nat}
    {reader : Buffered coding.State} (hleft : left ≤ limit)
    (hreads : left + 1 ≤ reads + reader.encoded.length)
    (h : reader.Holds limit left encoded data) :
    (fill rule (fun _ => false) room reads reader).Consumes (fun result rest =>
      result.1 = .ok () ∧ result.2.isReady (fun _ => false) = true ∧
        ∃ quiet, quiet ≤ limit ∧ result.2.Holds limit quiet rest data) encoded := by
  -- what is buffered counts with the reads: each read brings a byte before the next one is made
  induction reads generalizing reader encoded left with
  | zero =>
    obtain ⟨quiet, hquiet, hholds, hready⟩ := advance_holds hrule hroom hleft h
    have hanswers := hready.resolve_right (by omega)
    rw [fill, if_pos hanswers]
    exact ⟨rfl, hanswers, quiet, hquiet, hholds⟩
  | succ reads ih =>
    obtain ⟨quiet, hquiet, hholds, hready⟩ := advance_holds hrule hroom hleft h
    rw [fill]
    generalize reader.advance rule (fun _ => false) room = after at hholds hready
    split
    · rename_i hanswers
      exact ⟨rfl, hanswers, quiet, hquiet, hholds⟩
    · rename_i hanswers
      obtain ⟨hused, hcount⟩ := hready.resolve_left hanswers
      obtain ⟨state, fewer, rfl, hfewer, hyields⟩ := eq_of_not_ready hholds hanswers hused
      refine ⟨hrule.roomy, fun given hgiven => ?_⟩
      have hgot : encoded.take given ≠ [] := by
        intro hnone
        have hpositive := hgiven.2.2 hyields.ne_nil
        rw [List.take_eq_nil_iff] at hnone
        exact hnone.elim (by omega) hyields.ne_nil
      have hreceive : receive ⟨.running state, [], [], false⟩ (encoded.take given) =
          ⟨.running state, encoded.take given, [], false⟩ := by
        cases hbytes : encoded.take given with
        | nil => exact absurd hbytes hgot
        | cons byte bytes => rfl
      have hnext : (⟨.running state, encoded.take given, [], false⟩ :
          Buffered coding.State).Holds limit fewer (encoded.drop given) data := by
        refine ⟨rfl, data, rfl, fewer, Nat.le_of_eq (if_pos rfl).symm, ?_⟩
        rw [List.take_append_drop]
        exact hyields
      have hlength := List.length_pos_iff.mpr hgot
      dsimp only
      rw [hreceive]
      exact ih (Nat.le_trans hfewer hquiet) (by dsimp only; omega) hnext

/-- An answered read gives the next bytes of the data. -/
theorem answer_gives {room : Nat} (hroom : 1 ≤ room) {reader : Buffered coding.State}
    (hready : reader.isReady (fun _ => false) = true) (hleft : left ≤ limit)
    (h : reader.Holds limit left encoded data) :
    ∃ given, data.MayGive room given ∧ (reader.answer room).1 = .ok (data.take given) ∧
      ∃ quiet, quiet ≤ limit ∧
        (reader.answer room).2.Holds limit quiet encoded (data.drop given) := by
  obtain ⟨progress, buffer, output, exhausted⟩ := reader
  cases progress with
  | failed failure => exact h.elim
  | finished =>
    have hdata : data = output ++ [] := by rw [List.append_nil]; exact h
    obtain ⟨hgiven, htake, hdrop⟩ := @Bytes.mayGive_waiting room hroom output [] fun _ => rfl
    refine ⟨_, hdata ▸ hgiven, ?_, left, hleft, ?_⟩
    · rw [hdata, htake, answer]
      exact nofun
    · rw [hdata, hdrop, List.append_nil, answer]
      · rfl
      · exact nofun
  | running state =>
    cases output with
    | nil => exact absurd hready Bool.false_ne_true
    | cons byte output =>
      obtain ⟨hopen, later, rfl, quiet, hquiet, hyields⟩ := h
      obtain ⟨hgiven, htake, hdrop⟩ := @Bytes.mayGive_waiting room hroom (byte :: output) later nofun
      refine ⟨_, hgiven, congrArg Except.ok htake.symm, limit, Nat.le_refl _, hopen, later, hdrop,
        quiet, ?_, hyields⟩
      rw [if_neg (List.cons_ne_nil _ _)] at hquiet
      split <;> exact hquiet

/-- Serving gives the next bytes of the data, and leaves a reader that holds the rest. -/
theorem serve_gives (hrule : rule.IsPlain) (hpatience : limit + 1 ≤ rule.patience) {room : Nat}
    (hroom : 1 ≤ room) {reader : Buffered coding.State} (hleft : left ≤ limit)
    (h : reader.Holds limit left encoded data) :
    (reader.serve rule (fun _ => false) room).Consumes (fun result rest =>
      ∃ given, data.MayGive room given ∧ result.1 = .ok (data.take given) ∧
        ∃ quiet, quiet ≤ limit ∧ result.2.Holds limit quiet rest (data.drop given)) encoded := by
  have hreads : left + 1 ≤ rule.patience + reader.encoded.length := by omega
  have hfill := fill_consumes hrule hroom hleft hreads h
  rw [serve]
  refine Pull.Consumes.map (hfill.mono ?_)
  rintro ⟨answer, after⟩ rest ⟨hanswer, hready, fewer, hfewer, hholds⟩
  dsimp only at hanswer
  subst hanswer
  exact answer_gives hroom hready hfewer hholds

/-- A read with room serves at once. -/
theorem read_eq_serve (hrule : rule.IsPlain) {room : Nat} (hroom : 1 ≤ room)
    (reader : Buffered coding.State) :
    Buffered.read rule reader room = reader.serve rule (fun _ => false) room := by
  have hnone : reader.looksAhead rule = false := by
    rw [looksAhead, hrule.noPrefetch, Bool.false_and]
  have hne : room ≠ 0 := Nat.one_le_iff_ne_zero.mp hroom
  simp only [Buffered.read, hne, hnone, if_false, Bool.false_eq_true]

/-- A read of the layer gives the next bytes of the data, and leaves a reader that holds the rest. -/
theorem recovering (hrule : rule.IsPlain) (hpatience : limit + 1 ≤ rule.patience) :
    (coding.decoder rule).Recovering fun reader encoded data =>
      ∃ quiet, quiet ≤ limit ∧ Buffered.Holds limit quiet reader encoded data := by
  rintro (reader : Buffered coding.State) encoded data room hroom ⟨quiet, hquiet, hholds⟩
  have hread : (coding.decoder rule).read reader room =
      reader.serve rule (fun _ => false) room := read_eq_serve hrule hroom reader
  rw [hread]
  exact serve_gives hrule hpatience hroom hquiet hholds

end Buffered

/-- The reader of a transducer recovers the data that the transducer yields, for every buffer and
enough patience. -/
theorem Transducer.Yields.recovers {coding : Transducer} {rule : ReadRule coding.State}
    (hrule : rule.IsPlain) {limit : Nat} (hpatience : limit + 1 ≤ rule.patience)
    {encoded data : Bytes} (h : coding.Yields limit limit coding.start encoded data) :
    (coding.decoder rule).Recovers coding.fresh encoded data := by
  refine ⟨_, Buffered.recovering hrule hpatience, limit, Nat.le_refl _, rfl, data, rfl, limit, ?_, h⟩
  split <;> exact Nat.le_refl _

end ContentCoding
