import ContentCoding.Proofs.Lzw.Layer

/-!
# What an LZW layer puts out

The bytes that an encoding layer puts out are the codes of all data written to it. They do not
depend on the pieces that the data come in, on flushes in between, on the size of the scratch space,
or on how many bytes the writer below takes at a time and how often it is interrupted meanwhile.

A flush is handed on once, whatever it is answered, so nothing is said of its answer.
-/

namespace ContentCoding

universe u

namespace Lzw

variable {W : Type u} {writer : Writer W} {received : W → Bytes → Prop} {scratch : Nat}
variable {packing : Packing} {sent data : Bytes}

/-- Of the calls of a script and the finalizing behind it, every write takes all it is given and
finalizing succeeds, if there is enough patience. The writer below has then received the stream of
all that was written. -/
theorem encoder_settles (hw : writer.Persists received) (hscratch : 1 ≤ scratch)
    (script : List Feed) (h : packing.Carries sent data) {world : W} (hworld : received world sent) :
    ∃ answers after last ended final,
      (∀ᶠ patience in Filter.atTop,
        (encoder patience scratch).performAll writer script { packing } world =
          (answers, after, last) ∧
        ((encoder patience scratch).finalize after).run writer last = ((.ok (), ended), final)) ∧
      List.Forall₂ (fun feed answer => ∀ piece, feed = .piece piece → answer = .ok piece.length)
        script answers ∧
      received final (BitField.pack (Packing.codes (data ++ Feed.content script))) := by
  induction script generalizing packing sent data world with
  | nil =>
    obtain ⟨ended, pieces, hhands, -, hencoded⟩ := finalize_hands hscratch (.inl h.2)
    obtain ⟨final, hfinal, hfinish⟩ := Push.Hands.settles hw hhands hworld
    refine ⟨[], { packing }, world, ended, final, hfinish.mono fun patience hrun => ⟨rfl, hrun⟩,
      .nil, ?_⟩
    rw [Feed.content, List.append_nil, ← Packing.encoded_eq_pack, ← hencoded]
    exact hfinal
  | cons feed later ih =>
    cases feed with
    | piece input =>
      obtain ⟨taken, pieces, hhands, hcarries⟩ :=
        writeRounds_hands input.length hscratch input h
      obtain ⟨between, hbetween, hwrite⟩ := Push.Hands.settles hw hhands hworld
      obtain ⟨answers, after, last, ended, final, hrest, hanswers, hfinal⟩ := ih hcarries hbetween
      refine ⟨.ok input.length :: answers, after, last, ended, final, ?_,
        .cons (by rintro _ ⟨⟩; rfl) hanswers, ?_⟩
      · filter_upwards [hwrite, hrest] with patience hpiece hlater
        have hperform : (encoder patience scratch).perform writer { packing } world (.piece input) =
            (.ok input.length, { packing := taken }, between) := by
          simp only [Encoder.perform, encoder, Bool.false_eq_true, if_false, hpiece]
        exact ⟨Encoder.performAll_cons hperform hlater.1, hlater.2⟩
      · rw [Feed.content, ← List.append_assoc]
        exact hfinal
    | flush =>
      have hflushed := hw.flush world sent hworld
      obtain ⟨answers, after, last, ended, final, hrest, hanswers, hfinal⟩ := ih h hflushed
      refine ⟨(writer.flush world).1.map (fun _ => 0) :: answers, after, last, ended, final, ?_,
        .cons (fun piece hpiece => by cases hpiece) hanswers, hfinal⟩
      filter_upwards [hrest] with patience hlater
      exact ⟨Encoder.performAll_cons rfl hlater.1, hlater.2⟩

/-- What the writer below has received depends on the data alone: a clear code, the codes of the
data and an end code, filled up with zero bits to a whole byte. Every write takes all it is given,
and finalizing succeeds. -/
theorem output_is_packed_codes (hw : writer.Persists received) (hscratch : 1 ≤ scratch) {world : W}
    (hworld : received world []) (script : List Feed) :
    ∃ answers after last ended final front width,
      (∀ᶠ patience in Filter.atTop,
        (encoder patience scratch).performAll writer script {} world = (answers, after, last) ∧
        ((encoder patience scratch).finalize after).run writer last = ((.ok (), ended), final)) ∧
      List.Forall₂ (fun feed answer => ∀ piece, feed = .piece piece → answer = .ok piece.length)
        script answers ∧
      received final (BitField.pack (Packing.codes (Feed.content script))) ∧
      Packing.codes (Feed.content script) =
        ⟨minWidth, clearCode⟩ :: front ++ [⟨width, endCode⟩] ∧
      Unpacking.Decodes {} false (Packing.codes (Feed.content script)) (Feed.content script) := by
  obtain ⟨answers, after, last, ended, final, hrun, hanswers, hfinal⟩ :=
    encoder_settles hw hscratch script Packing.new_carries hworld
  obtain ⟨front, next, last', hcodes, -⟩ := inStep_new.codesFrom true (Feed.content script)
  have hdecodes := codes_decodes (Feed.content script) []
  rw [List.append_nil] at hdecodes
  refine ⟨answers, after, last, ended, final, front, next.width, hrun, hanswers, hfinal, ?_,
    hdecodes⟩
  rw [Packing.codes, hcodes]
  rfl

/-- Whatever the patience from some number on, a sink that interrupts the first two writes comes to
hold a clear code, a letter and an end code in four bytes. -/
theorem interrupted_output_of_letter :
    let fault : Fault := .described .interrupted "again"
    let sink : EncoderStack 0 × Outlet ScriptedSink :=
      (.bottom, { sink := { script := .failsFirst 2 fault }, attached := true })
    ∃ answers after last ended final,
      (∀ᶠ patience in Filter.atTop,
        (encoder patience 1).performAll (EncoderStack.writer 0) [.piece [], .flush, .piece [65]] {}
          sink = (answers, after, last) ∧
        ((encoder patience 1).finalize after).run (EncoderStack.writer 0) last =
          ((.ok (), ended), final)) ∧
      answers.length = 3 ∧ answers[0]? = some (.ok 0) ∧ answers[2]? = some (.ok 1) ∧
      final.2.sink.taken.toList = [0, 131, 4, 4] := by
  intro fault sink
  obtain ⟨answers, after, last, ended, final, front, width, hrun, hanswers, hreceived, -, -⟩ :=
    output_is_packed_codes (ScriptedSink.persists (by rfl : fault.isInterruption = true))
      (Nat.le_refl 1) (⟨rfl, rfl, rfl⟩ : ScriptedSink.Interrupts 2 fault sink [])
      [.piece [], .flush, .piece [65]]
  obtain _ | ⟨hfirst, _ | ⟨-, _ | ⟨hthird, _ | _⟩⟩⟩ := hanswers
  have hbytes : BitField.pack (Packing.codes [65]) = [0, 131, 4, 4] := by decide
  refine ⟨_, after, last, ended, final, hrun, rfl, congrArg some (hfirst [] rfl),
    congrArg some (hthird [65] rfl), ?_⟩
  exact hreceived.2.2.trans hbytes

end Lzw

end ContentCoding
