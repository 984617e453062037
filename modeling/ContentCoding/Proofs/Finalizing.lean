import ContentCoding.Proofs.Brotli.Layer
import ContentCoding.Proofs.Lzw.Output

/-!
# Finalizing again

A layer may be finalized any number of times, over a writer below that fails or refuses bytes at any
call and recovers later. It is at rest when finalizing it once more would succeed without a call
below. Both layers that keep no output of their own come to rest, and stay so.

The main statement sets what the verdicts say against a ledger of what the writer below has taken.
An LZW layer that comes to rest after a failure has lost bytes: the writer below has taken all of the
stream exactly if no finalizing failed before the one that succeeded. A Brotli layer comes to rest
with the first finalizing, whatever that reports, so its later successes say nothing about the
stream.
-/

namespace ContentCoding

universe u

namespace Encoder

variable (encoder : Encoder) {W : Type u} (writer : Writer W)

/-- Finalize a layer so many times. -/
def finalizeTimes : Nat → encoder.State → W → List (Except Fault Unit) × encoder.State × W
  | 0, state, world => ([], state, world)
  | times + 1, state, world =>
    let ((verdict, state), world) := (encoder.finalize state).run writer world
    let (verdicts, state, world) := finalizeTimes times state world
    (verdict :: verdicts, state, world)

/-- Finalizing succeeds at once, calls nothing and changes nothing. -/
def AtRest (state : encoder.State) : Prop := encoder.finalize state = .done (.ok (), state)

variable {encoder writer}

/-- A first finalizing and those behind it make one run. -/
theorem finalizeTimes_succ {times : Nat} {state middle : encoder.State} {world between : W}
    {verdict : Except Fault Unit}
    (hfirst : (encoder.finalize state).run writer world = ((verdict, middle), between)) :
    encoder.finalizeTimes writer (times + 1) state world =
      (verdict :: (encoder.finalizeTimes writer times middle between).1,
        (encoder.finalizeTimes writer times middle between).2) := by
  simp only [finalizeTimes, hfirst]

/-- A layer at rest stays at rest: it succeeds as often as it is finalized, and the writer below is
not called. -/
theorem AtRest.finalizeTimes {state : encoder.State} (h : encoder.AtRest state) (times : Nat)
    (world : W) :
    encoder.finalizeTimes writer times state world =
      (List.replicate times (.ok ()), state, world) := by
  induction times with
  | zero => rfl
  | succ times ih =>
    have hfirst : (encoder.finalize state).run writer world = ((.ok (), state), world) := by
      rw [h]
      rfl
    rw [finalizeTimes_succ hfirst, ih, List.replicate_succ]

/-- What every successful call for the first entry of a script makes of the whole script the rest of
it, so do the calls of all entries. -/
theorem performAll_preserves {expects : List Feed → encoder.State → W → Prop}
    (hstep : ∀ {feed later state world answer middle between},
      expects (feed :: later) state world →
      encoder.perform writer state world feed = (answer, middle, between) →
      answer.isOk = true → expects later middle between)
    {script : List Feed} {state after : encoder.State} {world last : W}
    {answers : List (Except Fault Nat)} (h : expects script state world)
    (hrun : encoder.performAll writer script state world = (answers, after, last))
    (hok : ∀ answer ∈ answers, answer.isOk = true) : expects [] after last := by
  induction script generalizing state world answers with
  | nil =>
    simp only [performAll, Prod.mk.injEq] at hrun
    rw [← hrun.2.1, ← hrun.2.2]
    exact h
  | cons feed later ih =>
    cases hfirst : encoder.perform writer state world feed with
    | mk answer rest =>
      cases hlater : encoder.performAll writer later rest.1 rest.2 with
      | mk others ends =>
        rw [performAll_cons hfirst hlater] at hrun
        have hanswers : answer :: others = answers := (Prod.mk.inj hrun).1
        have hends : ends = (after, last) := (Prod.mk.inj hrun).2
        have hmem : answer ∈ answers := by simp [← hanswers]
        have hrest : ∀ other ∈ others, other.isOk = true := by
          intro other hother
          apply hok
          simp [← hanswers, hother]
        rw [hends] at hlater
        exact ih (hstep h hfirst (hok answer hmem)) hlater hrest

end Encoder

/-! ### What becomes of a complete write -/

/-- What has become of bytes that were to be written completely: all were taken, or some at the end
were lost. Before them the writer below had taken others. -/
inductive Handed (before bytes : Bytes) : Except Fault Unit → Bytes → Prop
  /-- All bytes were taken. -/
  | all {taken : Bytes} (took : taken = before ++ bytes) : Handed before bytes (.ok ()) taken
  /-- Some were lost. -/
  | part {sent left taken : Bytes} {fault : Fault} (split : sent ++ left = bytes) (lost : left ≠ [])
      (took : taken = before ++ sent) : Handed before bytes (.error fault) taken

namespace Handed

variable {before front bytes taken : Bytes} {answer : Except Fault Unit}

/-- Bytes may be written behind others that were taken. -/
theorem behind (h : Handed (before ++ front) bytes answer taken) :
    Handed before (front ++ bytes) answer taken := by
  cases h with
  | all took =>
    rw [List.append_assoc] at took
    exact .all took
  | @part sent left _ fault split lost took =>
    rw [List.append_assoc] at took
    refine .part ?_ lost took
    rw [List.append_assoc, split]

/-- If there are bytes, none of them may have been taken. -/
theorem none (hsome : bytes ≠ []) (fault : Fault) : Handed before bytes (.error fault) before :=
  .part (List.nil_append bytes) hsome (List.append_nil before).symm

/-- Behind bytes that were taken out of others, what is taken is taken out of those and the present
ones. -/
theorem sublist {put : Bytes} (h : Handed before bytes answer taken) (hbefore : before.Sublist put) :
    taken.Sublist (put ++ bytes) := by
  cases h with
  | all took =>
    rw [took]
    exact hbefore.append (List.Sublist.refl bytes)
  | @part sent left _ fault split lost took =>
    have hsent : sent.Sublist bytes := by simp [← split]
    rw [took]
    exact hbefore.append hsent

/-- All is taken exactly if nothing was lost before and the write succeeds. -/
theorem eq_iff {put : Bytes} (h : Handed before bytes answer taken)
    (hbefore : before.Sublist put) :
    taken = put ++ bytes ↔ before = put ∧ answer.isOk = true := by
  cases h with
  | all took => simp [took, Except.isOk, Except.toBool]
  | @part sent left _ fault split lost took =>
    have hbytes : bytes.length = sent.length + left.length := by simp [← split]
    have hlost := List.length_pos_iff.mpr lost
    have hlength := hbefore.length_le
    have hshort : taken.length < (put ++ bytes).length := by
      rw [took, List.length_append, List.length_append]
      omega
    have hne : taken ≠ put ++ bytes := by
      intro hsame
      rw [hsame] at hshort
      omega
    simp [hne, Except.isOk, Except.toBool]

end Handed

/-- A delivery hands on all of its bytes, or reports a fault and loses some. -/
theorem Push.deliverFor_logs (rule : DeliveryRule) (attempts : Nat) (bytes : Bytes)
    (ledger : Ledger) :
    (deliverFor rule attempts bytes).Logs
      (fun result after => Handed ledger.taken bytes result.outcome after.taken) ledger := by
  have hempty : Handed ledger.taken [] (.ok ()) ledger.taken := .all (List.append_nil _).symm
  induction attempts generalizing bytes ledger with
  | zero =>
    cases bytes with
    | nil => exact hempty
    | cons byte bytes => exact .none (List.cons_ne_nil byte bytes) _
  | succ attempts ih =>
    cases bytes with
    | nil => exact hempty
    | cons byte bytes =>
      have hsome : byte :: bytes ≠ [] := List.cons_ne_nil byte bytes
      intro answer
      cases answer with
      | ok taken =>
        cases taken with
        | zero => exact .none hsome rule.refusal
        | succ taken =>
          have hlater := ih ((byte :: bytes).drop (taken + 1))
            (ledger.offered (byte :: bytes) (.ok (taken + 1))) (.all (List.append_nil _).symm)
          refine hlater.mono fun result after hresult => ?_
          have hall := Handed.behind hresult
          rwa [List.take_append_drop] at hall
      | error fault =>
        by_cases hagain : (rule.retries && fault.isInterruption) = true
        · simp only [hagain, if_true]
          exact ih (byte :: bytes) (ledger.offered (byte :: bytes) (.error fault)) hempty
        · simp only [hagain]
          exact .none hsome fault

/-- So does a complete write. -/
theorem Push.writeAll_logs (patience : Nat) (bytes : Bytes) (ledger : Ledger) :
    (writeAll patience bytes).Logs
      (fun answer after => Handed ledger.taken bytes answer after.taken) ledger :=
  Logs.map (deliverFor_logs .complete (bytes.length + patience) bytes ledger)

namespace Lzw

variable {W : Type u} {writer : Writer W} {patience scratch : Nat}

/-! ### LZW layers -/

/-- If the rounds of a write all succeed, the writer below has taken what the encoder has put out,
which carries the input as well. -/
theorem writeRounds_logs (patience total : Nat) (hscratch : 1 ≤ scratch) {packing : Packing}
    (input : Bytes) {data : Bytes} {ledger : Ledger} (h : packing.Carries ledger.taken data) :
    (writeRounds patience scratch total packing input).Logs
      (fun result after => result.1.isOk = true →
        result.2.finished = false ∧ result.2.packing.Carries after.taken (data ++ input)) ledger := by
  by_cases hinput : input = []
  · rw [hinput, writeRounds_nil, List.append_nil]
    exact fun _ => ⟨rfl, h⟩
  · obtain ⟨taken, hsplit, hcarries, hprogress⟩ := Packing.feed_carries hscratch hinput h
    rw [writeRounds_of_ne _ _ _ _ hinput]
    refine Push.Logs.bind ((Push.writeAll_logs patience _ ledger).mono ?_)
    intro answer after hanswer
    cases hanswer with
    | part split lost took => exact fun hok => (Bool.false_ne_true hok).elim
    | all took =>
      rw [← took] at hcarries
      have hlater := writeRounds_logs patience total hscratch (packing.feed scratch input).rest
        hcarries
      rw [List.append_assoc, ← hsplit] at hlater
      dsimp only
      rw [if_neg (Packing.feed_effect hscratch hinput)]
      exact hlater
termination_by (input.length, packing.held.count)
decreasing_by
  rcases hprogress with hless | ⟨hsame, hless⟩
  · exact Prod.Lex.left _ _ hless
  · rw [hsame]
    exact Prod.Lex.right _ hless

/-- The rounds of finalizing put out more of the stream, which the writer below takes as a complete
write, if there may be enough of them. If they succeed the stream has been put out, and otherwise the
encoder can go on. -/
theorem finishRounds_logs (patience : Nat) (hscratch : 1 ≤ scratch) {packing : Packing}
    {put data : Bytes} (h : packing.Ends put data) {rounds : Nat}
    (henough : packing.remaining < rounds) (ledger : Ledger) :
    (finishRounds patience scratch rounds packing).Logs
      (fun result after => ∃ answer state more, result = some (answer, state) ∧
        Handed ledger.taken more answer after.taken ∧
        (answer.isOk = true → state.finished = true ∧ put ++ more = Packing.encoded data) ∧
        (answer.isOk = false →
          state.finished = false ∧ state.packing.Ends (put ++ more) data)) ledger := by
  induction rounds generalizing packing put ledger with
  | zero => exact absurd henough (Nat.not_lt_zero _)
  | succ rounds ih =>
    obtain ⟨hends, hended⟩ := @Packing.finish_ends packing put data scratch h
    rw [finishRounds_succ]
    refine Push.Logs.bind ((Push.writeAll_logs patience _ ledger).mono ?_)
    intro answer after hanswer
    cases hanswer with
    | part split lost took =>
      exact ⟨_, _, (packing.finish scratch).output, rfl, .part split lost took,
        fun hok => (Bool.false_ne_true hok).elim, fun _ => ⟨rfl, hends⟩⟩
    | all took =>
      dsimp only
      by_cases hdone : (packing.finish scratch).report = .ended
      · obtain ⟨hcloses, hnone⟩ := hended hdone
        rw [if_pos hdone]
        exact ⟨_, _, (packing.finish scratch).output, rfl, .all took,
          fun _ => ⟨rfl, hcloses.eq_encoded hnone⟩,
          fun herror => (Bool.false_ne_true herror.symm).elim⟩
      · have hmore := (packing.finish_report scratch).resolve_left hdone
        have hless := (Packing.finish_going hmore).2 hscratch
        rw [if_neg hdone]
        refine (ih hends (by omega) after).mono fun result last hresult => ?_
        obtain ⟨verdict, state, more, rfl, hhanded, hok, herror⟩ := hresult
        rw [took] at hhanded
        rw [List.append_assoc] at hok herror
        exact ⟨verdict, state, (packing.finish scratch).output ++ more, rfl, hhanded.behind, hok,
          herror⟩

/-- Finalizing puts out more of the stream. If it succeeds the stream has been put out, and otherwise
the encoder can go on. -/
theorem finalize_logs (patience : Nat) (hscratch : 1 ≤ scratch) {state : WriterState}
    {put data : Bytes} (hopen : state.finished = false) (h : state.packing.Ends put data)
    (ledger : Ledger) :
    ((encoder patience scratch).finalize state).Logs
      (fun result after => ∃ more, Handed ledger.taken more result.1 after.taken ∧
        (result.1.isOk = true → result.2.finished = true ∧ put ++ more = Packing.encoded data) ∧
        (result.1.isOk = false →
          result.2.finished = false ∧ result.2.packing.Ends (put ++ more) data)) ledger := by
  have henough : state.packing.remaining < patience + state.packing.remaining + 1 := by omega
  simp only [encoder, hopen, Bool.false_eq_true, if_false]
  refine Push.Logs.map ((finishRounds_logs patience hscratch h henough ledger).mono ?_)
  rintro _ after ⟨answer, ended, more, rfl, hresult⟩
  exact ⟨more, hresult⟩

/-- A layer that has sent the end code is at rest. -/
theorem atRest_of_finished {state : WriterState} (h : state.finished = true) :
    (encoder patience scratch).AtRest state := by
  simp [Encoder.AtRest, encoder, h]

/-- After calls that all succeed the writer below has taken what the encoder has put out, and the
encoder carries all that was written. -/
theorem carries_of_performAll (hscratch : 1 ≤ scratch) {script : List Feed} {world : W}
    {answers : List (Except Fault Nat)} {after : WriterState} {last : W × Ledger}
    (hrun : (encoder patience scratch).performAll writer.logged script {} (world, {}) =
      (answers, after, last))
    (hok : ∀ answer ∈ answers, answer.isOk = true) :
    after.finished = false ∧ after.packing.Carries last.2.taken (Feed.content script) := by
  let expects : List Feed → WriterState → W × Ledger → Prop := fun later state world =>
    state.finished = false ∧ ∃ data, data ++ Feed.content later = Feed.content script ∧
      state.packing.Carries world.2.taken data
  have hnew : expects script {} (world, {}) := ⟨rfl, [], rfl, Packing.new_carries⟩
  have hall : expects [] after last := Encoder.performAll_preserves ?_ hnew hrun hok
  · obtain ⟨hopen, data, hdata, hcarries⟩ := hall
    rw [Feed.content, List.append_nil] at hdata
    rw [← hdata]
    exact ⟨hopen, hcarries⟩
  · intro feed later state world answer middle between h hperform hanswer
    obtain ⟨hopen, data, hdata, hcarries⟩ := h
    cases feed with
    | piece bytes =>
      have hlogs := (writeRounds_logs patience bytes.length hscratch bytes hcarries).run writer world.1
      simp only [Encoder.perform, encoder, hopen, Bool.false_eq_true, if_false] at hperform
      obtain ⟨rfl, hlast⟩ := Prod.mk.inj hperform
      obtain ⟨rfl, rfl⟩ := Prod.mk.inj hlast
      rw [Feed.content, ← List.append_assoc] at hdata
      exact ⟨(hlogs hanswer).1, data ++ bytes, hdata, (hlogs hanswer).2⟩
    | flush =>
      have hsame : ∀ flushed, (world.2.flushed flushed).taken = world.2.taken := by
        intro flushed
        cases flushed <;> rfl
      simp only [Encoder.perform, encoder, Push.forwardFlush, Push.run, Writer.logged] at hperform
      obtain ⟨-, hlast⟩ := Prod.mk.inj hperform
      obtain ⟨rfl, rfl⟩ := Prod.mk.inj hlast
      rw [← hsame (writer.flush world.1).1] at hcarries
      exact ⟨hopen, data, hdata, hcarries⟩

/-- Finalizing fails a number of times and succeeds from then on. Once it has succeeded the layer is
at rest, and the writer below has taken all of the stream exactly if nothing was lost before and no
finalizing has failed. -/
theorem finalizeTimes_ends (hscratch : 1 ≤ scratch) (times : Nat) {state ended : WriterState}
    {put data : Bytes} {world final : W × Ledger} {verdicts : List (Except Fault Unit)}
    (hopen : state.finished = false) (h : state.packing.Ends put data)
    (htaken : world.2.taken.Sublist put)
    (hrun : (encoder patience scratch).finalizeTimes writer.logged times state world =
      (verdicts, ended, final)) :
    ∃ failed succeeded, verdicts = failed ++ List.replicate succeeded (.ok ()) ∧
      (∀ verdict ∈ failed, verdict.isOk = false) ∧
      (0 < succeeded → (encoder patience scratch).AtRest ended ∧
        final.2.taken.Sublist (Packing.encoded data) ∧
        (final.2.taken = Packing.encoded data ↔ world.2.taken = put ∧ failed = [])) := by
  induction times generalizing state put world verdicts with
  | zero =>
    have hnone : verdicts = [] := (congrArg Prod.fst hrun).symm
    exact ⟨[], 0, hnone, by simp, by simp⟩
  | succ times ih =>
    obtain ⟨more, hmore, hok, herror⟩ :=
      (finalize_logs patience hscratch hopen h world.2).run writer world.1
    have hsublist := hmore.sublist htaken
    have hall := hmore.eq_iff htaken
    cases hfirst : ((encoder patience scratch).finalize state).run writer.logged world with
    | mk result between =>
      obtain ⟨verdict, middle⟩ := result
      rw [hfirst] at hmore hok herror hsublist hall
      dsimp only at hmore hok herror hsublist hall
      rw [Encoder.finalizeTimes_succ hfirst] at hrun
      cases verdict with
      | ok _ =>
        obtain ⟨hfinished, hwhole⟩ := hok rfl
        have hrest : (encoder patience scratch).AtRest middle := atRest_of_finished hfinished
        rw [hrest.finalizeTimes] at hrun
        obtain ⟨rfl, hlast⟩ := Prod.mk.inj hrun
        obtain ⟨rfl, rfl⟩ := Prod.mk.inj hlast
        rw [hwhole] at hsublist hall
        refine ⟨[], times + 1, rfl, by simp, fun _ => ⟨hrest, hsublist, ?_⟩⟩
        simpa [Except.isOk, Except.toBool] using hall
      | error fault =>
        obtain ⟨hagain, hends⟩ := herror rfl
        obtain ⟨hverdicts, hlast⟩ := Prod.mk.inj hrun
        obtain ⟨failed, succeeded, hsplit, hfailed, hrest⟩ :=
          ih hagain hends hsublist (Prod.ext rfl hlast)
        refine ⟨.error fault :: failed, succeeded, ?_, ?_, ?_⟩
        · exact hverdicts.symm.trans (congrArg (Except.error fault :: ·) hsplit)
        · simpa [Except.isOk, Except.toBool] using hfailed
        · intro hsome
          obtain ⟨hstays, hpart, hwhole⟩ := hrest hsome
          have hlost : between.2.taken ≠ put ++ more := by
            intro hsame
            simpa [Except.isOk, Except.toBool] using (hall.mp hsame).2
          refine ⟨hstays, hpart, ?_⟩
          simp [hwhole, hlost]

end Lzw

namespace Brotli

variable {W : Type u} {engine : Engine} {patience : Nat}

/-! ### Brotli layers -/

/-- A layer that has ended its stream is at rest. -/
theorem atRest_of_ended {layer : WriterState engine.State} (h : layer.ended = true) :
    (encoderOver engine patience).AtRest layer := by
  simp [Encoder.AtRest, encoderOver, WriterState.finalize, h]

/-- Whatever finalizing reports, the stream has been ended after it. -/
theorem WriterState.finalize_ends (writer : Writer W) (layer : WriterState engine.State)
    (world : W) : ((layer.finalize patience).run writer world).1.2.ended = true := by
  by_cases hended : layer.ended = true
  · simp [WriterState.finalize, hended, Push.run]
  · simp only [WriterState.finalize, hended, Bool.false_eq_true, if_false, Push.run_bind,
      WriterState.finish, Push.map, Push.run]

/-- The first finalizing decides all. Those behind it succeed, and the writer below is not called. -/
theorem finalizeTimes_succ (writer : Writer W) (times : Nat) {layer ended : WriterState engine.State}
    {world final : W} {verdict : Except Fault Unit}
    (hrun : (layer.finalize patience).run writer world = ((verdict, ended), final)) :
    (encoderOver engine patience).finalizeTimes writer (times + 1) layer world =
        (verdict :: List.replicate times (.ok ()), ended, final) ∧
      (encoderOver engine patience).AtRest ended := by
  have hended : ((layer.finalize patience).run writer world).1.2.ended = true :=
    WriterState.finalize_ends writer layer world
  rw [hrun] at hended
  have hrest : (encoderOver engine patience).AtRest ended := atRest_of_ended hended
  have hall : (encoderOver engine patience).finalizeTimes writer (times + 1) layer world = _ :=
    Encoder.finalizeTimes_succ hrun
  rw [hrest.finalizeTimes] at hall
  exact ⟨hall, hrest⟩

/-- Over a writer that does no worse than to interrupt some calls, all of the stream has been taken
by then, whatever the first finalizing reports. -/
theorem finalizeTimes_settles {writer : Writer W} {received : W → Bytes → Prop}
    (hw : writer.Relents received) {world : W} (hworld : received world []) (script : List Feed)
    {encoded : Bytes}
    (hstream : engine.encodeFrom engine.start (script ++ [.flush]) = some encoded) :
    ∃ after last verdict ended final, received final.1 encoded ∧ ∀ᶠ patience in Filter.atTop,
      (encoderOver engine patience).performAll writer.logged script
          { conveyor := { running := engine.start } } (world, {}) =
        (script.map fun feed => .ok feed.size, after, last) ∧
      ∀ times, (encoderOver engine patience).finalizeTimes writer.logged (times + 1) after last =
        (verdict :: List.replicate times (.ok ()), ended, final) := by
  obtain ⟨after, last, ended, final, hfinal, hrun⟩ :=
    WriterState.beside_settles hw.logged script (world, {}) hstream
      ⟨hworld, rfl, fun _ hmem => absurd hmem List.not_mem_nil⟩
  refine ⟨after, last, WriterState.report (.ok ()) (remembered final.2), ended, final, hfinal.1, ?_⟩
  filter_upwards [hrun] with patience hcalls
  exact ⟨hcalls.1, fun times => (finalizeTimes_succ writer.logged times hcalls.2).1⟩

end Brotli

/-! ### What the verdicts say -/

section Verdicts

variable {W : Type u} {writer : Writer W} {world : W} {script : List Feed} {scratch patience : Nat}
variable {engine : Engine}

/-- After data that were written with success both layers may be finalized any number of times.

An LZW layer fails a number of times and succeeds from then on. Once it has succeeded it is at rest,
and the writer below has taken the stream of the data, less what the failures have lost: all of it
exactly if there were none.

A Brotli layer is at rest after the first time, and succeeds from then on whatever the first verdict
was. If that was a success too, the writer below has taken a first part of the stream, and all of it
unless it has refused an offer. If the writer below does no worse than to interrupt some calls, it
has all of the stream by then. -/
theorem success_after_failed_finalizing (hscratch : 1 ≤ scratch)
    (hengine : engine.Encodes Brotli.coding) :
    (∀ {answers after last times verdicts ended final},
      (Lzw.encoder patience scratch).performAll writer.logged script {} (world, {}) =
        (answers, after, last) →
      (∀ answer ∈ answers, answer.isOk = true) →
      (Lzw.encoder patience scratch).finalizeTimes writer.logged times after last =
        (verdicts, ended, final) →
      ∃ failed succeeded, verdicts = failed ++ List.replicate succeeded (.ok ()) ∧
        (∀ verdict ∈ failed, verdict.isOk = false) ∧
        (0 < succeeded → (Lzw.encoder patience scratch).AtRest ended ∧
          final.2.taken.Sublist (BitField.pack (Lzw.Packing.codes (Feed.content script))) ∧
          (final.2.taken = BitField.pack (Lzw.Packing.codes (Feed.content script)) ↔
            failed = []))) ∧
    ∃ encoded, engine.encodeFrom engine.start (script ++ [.flush]) = some encoded ∧
      Brotli.coding.toEnd Brotli.coding.start encoded [] = some (Feed.content script) ∧
      (∀ {answers after last times verdicts ended final},
        (Brotli.encoderOver engine patience).performAll writer.logged script
          { conveyor := { running := engine.start } } (world, {}) = (answers, after, last) →
        (∀ answer ∈ answers, answer.isOk = true) →
        (Brotli.encoderOver engine patience).finalizeTimes writer.logged (times + 1) after last =
          (verdicts, ended, final) →
        (Brotli.encoderOver engine patience).AtRest ended ∧
          ∃ verdict, verdicts = verdict :: List.replicate times (.ok ()) ∧
            (after.finalize patience).run writer.logged last = ((verdict, ended), final) ∧
            (verdict = .ok () → final.2.taken <+: encoded ∧
              (final.2.taken = encoded ↔ final.2.refused = false))) ∧
      ∀ {received : W → Bytes → Prop}, writer.Relents received → received world [] →
        ∃ after last verdict ended final, received final.1 encoded ∧
          ∀ᶠ patience in Filter.atTop,
            (Brotli.encoderOver engine patience).performAll writer.logged script
                { conveyor := { running := engine.start } } (world, {}) =
              (script.map fun feed => .ok feed.size, after, last) ∧
            ∀ times, (Brotli.encoderOver engine patience).finalizeTimes writer.logged (times + 1)
                after last = (verdict :: List.replicate times (.ok ()), ended, final) := by
  obtain ⟨encoded, hstream, hdecodes⟩ := hengine.flushed script
  refine ⟨?lzw, encoded, hstream, hdecodes, ?brotli, ?relenting⟩
  case lzw =>
    intro answers after last times verdicts ended final hcalls hok hrun
    obtain ⟨hopen, hcarries⟩ := Lzw.carries_of_performAll hscratch hcalls hok
    obtain ⟨failed, succeeded, hsplit, hfailed, hrest⟩ :=
      Lzw.finalizeTimes_ends hscratch times hopen (.inl hcarries.2) (List.Sublist.refl _) hrun
    rw [Lzw.Packing.encoded_eq_pack] at hrest
    refine ⟨failed, succeeded, hsplit, hfailed, fun hsome => ?_⟩
    obtain ⟨hstays, hpart, hwhole⟩ := hrest hsome
    exact ⟨hstays, hpart, by simpa using hwhole⟩
  case brotli =>
    intro answers after last times verdicts ended final hcalls hok hrun
    have hstart : (Brotli.WriterState.beside engine.start {}).Owes ((world, {}) : W × Ledger).2
        (script ++ [.flush]) encoded := ⟨engine.start, encoded, rfl, rfl, hstream, rfl⟩
    have howes := hstart.performAll hcalls hok
    cases hfirst : (after.finalize patience).run writer.logged last with
    | mk result beyond =>
      obtain ⟨hall, hrest⟩ := Brotli.finalizeTimes_succ writer.logged times hfirst
      rw [hrun] at hall
      obtain ⟨hverdicts, hlast⟩ := Prod.mk.inj hall
      obtain ⟨rfl, rfl⟩ := Prod.mk.inj hlast
      refine ⟨hrest, result.1, hverdicts, rfl, fun hverdict => ?_⟩
      have hfinal : (after.finalize patience).run writer.logged last =
          ((.ok (), result.2), final) := by rw [hfirst, ← hverdict]
      exact howes.finalize hfinal
  case relenting =>
    intro received hw hworld
    exact Brotli.finalizeTimes_settles hw hworld script hstream

/-- A sink fails its first write. An LZW layer that was flushed fails to be finalized once and then
succeeds, without all of its stream. A Brotli layer succeeds from the second time on. -/
theorem success_after_failed_finalizing_of_nothing :
    let fault : Fault := .bare .other
    let sink : EncoderStack 0 × Outlet ScriptedSink :=
      (.bottom, { sink := { script := .failsFirst 1 fault }, attached := true })
    let stream : Bytes := [0, 3, 2]
    let calls := (Lzw.encoder 0 512).performAll (EncoderStack.writer 0).logged [.flush] {}
      (sink, {})
    let lzw := (Lzw.encoder 0 512).finalizeTimes (EncoderStack.writer 0).logged 3 calls.2.1 calls.2.2
    let brotli := (Brotli.encoder 0 22 4096).finalizeTimes (EncoderStack.writer 0).logged 3
      (Brotli.fresh 0 22 4096) (sink, {})
    calls.1 = [.ok 0] ∧ lzw.1 = [.error fault, .ok (), .ok ()] ∧
      (Lzw.encoder 0 512).AtRest lzw.2.1 ∧ lzw.2.2.2.taken.Sublist stream ∧
      lzw.2.2.2.taken ≠ stream ∧
      ∃ verdict, brotli.1 = [verdict, .ok (), .ok ()] := by
  intro fault sink stream calls lzw brotli
  have hengine : (Brotli.engine 22 4096).Encodes Brotli.coding :=
    Brotli.engine_encodes (by decide) (by decide) (by decide)
  have hbytes : BitField.pack (Lzw.Packing.codes (Feed.content [.flush])) = stream := by decide
  have hcalls : calls.1 = [.ok 0] := by decide +kernel
  have hverdicts : lzw.1 = [.error fault, .ok (), .ok ()] := by decide +kernel
  have hok : ∀ answer ∈ calls.1, answer.isOk = true := by
    rw [hcalls]
    decide
  obtain ⟨hlzw, -⟩ := @success_after_failed_finalizing _ (EncoderStack.writer 0) sink [.flush] 512 0
    (Brotli.engine 22 4096) (by decide) hengine
  obtain ⟨-, encoded, -, -, hbrotli, -⟩ := @success_after_failed_finalizing _
    (EncoderStack.writer 0) sink [] 512 0 (Brotli.engine 22 4096) (by decide) hengine
  have hcalled : (Lzw.encoder 0 512).performAll (EncoderStack.writer 0).logged [.flush] {}
      (sink, {}) = (calls.1, calls.2.1, calls.2.2) := by rw [Prod.mk.eta]
  have hrun : (Lzw.encoder 0 512).finalizeTimes (EncoderStack.writer 0).logged 3 calls.2.1
      calls.2.2 = (lzw.1, lzw.2.1, lzw.2.2) := by rw [Prod.mk.eta]
  have hagain : (Brotli.encoder 0 22 4096).finalizeTimes (EncoderStack.writer 0).logged 3
      (Brotli.fresh 0 22 4096) (sink, {}) = (brotli.1, brotli.2.1, brotli.2.2) := rfl
  obtain ⟨failed, succeeded, hsplit, hfailed, hrest⟩ := hlzw hcalled hok hrun
  obtain ⟨-, verdict, hlater, -⟩ := hbrotli rfl nofun hagain
  rw [hverdicts] at hsplit
  rw [hbytes] at hrest
  have hfault : failed ≠ [] := by
    intro hnone
    have hmem : .error fault ∈ List.replicate succeeded (.ok () : Except Fault Unit) := by
      simpa [hnone] using congrArg (.error fault ∈ ·) hsplit
    simpa using List.eq_of_mem_replicate hmem
  have hsome : 0 < succeeded := by
    by_contra hnone
    have hzero : succeeded = 0 := by omega
    have hsame : [.error fault, .ok (), .ok ()] = failed := by simpa [hzero] using hsplit
    have hbad := hfailed (.ok ()) (by simp [← hsame])
    cases hbad
  obtain ⟨hstays, hpart, hwhole⟩ := hrest hsome
  exact ⟨hcalls, hverdicts, hstays, hpart, fun hsame => hfault (hwhole.mp hsame), verdict, hlater⟩

/-- A sink fails its first write and takes everything afterwards. Both layers report that, and succeed
when they are finalized again. What the sink has then is not the stream of no data. -/
theorem lost_stream_reported_as_success :
    let fault : Fault := .described .other "m"
    let sink : EncoderStack 0 × Outlet ScriptedSink :=
      (.bottom, { sink := { script := .failsFirst 1 fault }, attached := true })
    let lzw := (Lzw.encoder 8 4096).finalizeTimes (EncoderStack.writer 0) 2 {} sink
    let brotli := (Brotli.encoder 8 22 4096).finalizeTimes (EncoderStack.writer 0) 2
      (Brotli.fresh 8 22 4096) sink
    lzw.1 = [.error fault, .ok ()] ∧ lzw.2.2.2.sink.taken = #[] ∧
      BitField.pack (Lzw.Packing.codes []) = [0, 3, 2] ∧
      brotli.1 = [.error fault, .ok ()] ∧ brotli.2.2.2.sink.taken = #[3] ∧
      Brotli.coding.toEnd Brotli.coding.start [3] [] = none := by
  decide +kernel

end Verdicts

end ContentCoding
