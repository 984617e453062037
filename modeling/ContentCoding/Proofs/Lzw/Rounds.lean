import ContentCoding.Proofs.Lzw.Progress
import ContentCoding.Proofs.Responding

/-!
# The loops of an LZW layer

The loops of the encoding layer are counted here in calls of the encoder. A write always comes to a
result within some number of calls: a call that leaves something to do has taken input or used up
the scratch space, and otherwise the loop stops with a report. Without scratch space it makes two
calls at most and hands nothing on. It is a failure as soon as there is more than the encoder can
hold as bits.

The loop of finalizing goes by what the encoder reports. With some scratch space every call that
leaves something to do leaves less than there was, so the loop ends too. Without scratch space the
encoder holds at least the bits of a clear code and reports for ever that there is more to do, so no
number of calls is enough.
-/

namespace ContentCoding.Lzw

universe v

/-! ### The loops, call by call -/

/-- Write input and tell what comes of it within a number of calls of the encoder. -/
def writeCalls (patience scratch total : Nat) : (calls : Nat) → Packing → (input : Bytes) →
    Push (Option (Except Fault Nat × WriterState))
  | 0, packing, input => .done (if input.isEmpty then some (.ok total, { packing }) else none)
  | calls + 1, packing, input =>
    if input.isEmpty then .done (some (.ok total, { packing }))
    else
      let fed := packing.feed scratch input
      (Push.writeAll patience fed.output).bind fun
        | .error fault => .done (some (.error fault, { packing := fed.packing }))
        | .ok () =>
          if fed.rest.length = input.length ∧ fed.output = [] then
            .done (some (.error noProgress, { packing := fed.packing }))
          else writeCalls patience scratch total calls fed.packing fed.rest

variable {scratch : Nat}

/-- Some number of calls is enough for a write, and so is every larger one. -/
theorem exists_writeCalls_eq (scratch total : Nat) (packing : Packing) (input : Bytes) :
    ∃ calls, ∀ more patience, writeCalls patience scratch total (calls + more) packing input =
      (writeRounds patience scratch total packing input).map some := by
  induction packing, input using writeRounds.induct scratch with
  | case1 packing =>
    refine ⟨0, fun more patience => ?_⟩
    rw [writeRounds_nil]
    cases more <;> rfl
  | case2 packing input hsome fed hnext =>
    have hinput : input.isEmpty = false := by simpa using hsome
    -- a call without effect is the last one, and any other is followed by the next
    obtain ⟨calls, hlater⟩ : ∃ calls, ∀ more patience,
        (if fed.rest.length = input.length ∧ fed.output = [] then
            .done (some (.error noProgress, { packing := fed.packing }))
          else writeCalls patience scratch total (calls + more) fed.packing fed.rest) =
          (if fed.rest.length = input.length ∧ fed.output = [] then
              .done (.error noProgress, { packing := fed.packing })
            else writeRounds patience scratch total fed.packing fed.rest).map some := by
      by_cases hstuck : fed.rest.length = input.length ∧ fed.output = []
      · refine ⟨0, fun more patience => ?_⟩
        rw [if_pos hstuck, if_pos hstuck]
        rfl
      · obtain ⟨calls, hcalls⟩ := hnext hstuck
        refine ⟨calls, fun more patience => ?_⟩
        rw [if_neg hstuck, if_neg hstuck]
        exact hcalls more patience
    refine ⟨calls + 1, fun more patience => ?_⟩
    rw [Nat.add_right_comm, writeCalls, hinput, if_neg Bool.false_ne_true,
      writeRounds_of_ne _ _ _ _ hsome, Push.map_bind]
    refine congrArg _ (funext fun answer => ?_)
    cases answer with
    | error fault => rfl
    | ok _ => exact hlater more patience

/-- Without scratch space no number of calls is enough for finalizing. -/
theorem finishRounds_goes_on {packing : Packing} (hholds : 8 ≤ packing.held.count)
    (rounds patience : Nat) : finishRounds patience 0 rounds packing = .done none := by
  induction rounds generalizing packing with
  | zero => rfl
  | succ rounds ih =>
    obtain ⟨hreport, hnone, hkeeps⟩ := Packing.finish_none hholds
    rw [finishRounds, hnone, Push.writeAll_nil]
    simp only [Push.bind, hreport]
    exact ih (Nat.le_trans hholds hkeeps)

/-! ### Over writers that respond -/

variable {W : Type v} {writer : Writer W} {sound : W → Prop} {world : W}

/-- Over a writer that responds a write comes to something within any number of calls. -/
theorem writeCalls_settles (hw : writer.Responds sound) (scratch total calls : Nat)
    (packing : Packing) (input : Bytes) (hworld : sound world) :
    ∃ result after, sound after ∧
      Push.Settles writer (fun patience => writeCalls patience scratch total calls packing input)
        world result after := by
  induction calls generalizing packing input world with
  | zero => exact ⟨_, world, hworld, Push.settles_done _ world⟩
  | succ calls ih =>
    by_cases hnone : input.isEmpty = true
    · simp only [writeCalls, hnone, if_true]
      exact ⟨_, world, hworld, Push.settles_done _ world⟩
    · simp only [writeCalls, hnone]
      obtain ⟨answer, between, hbetween, hwrite⟩ :=
        Push.writeAll_responds hw (packing.feed scratch input).output hworld
      cases answer with
      | error fault => exact ⟨_, between, hbetween, hwrite.bind (Push.settles_done _ between)⟩
      | ok _ =>
        by_cases hstuck : (packing.feed scratch input).rest.length = input.length ∧
            (packing.feed scratch input).output = []
        · refine ⟨some (.error noProgress, { packing := (packing.feed scratch input).packing }),
            between, hbetween, hwrite.bind ?_⟩
          simp only [hstuck, and_self, if_true]
          exact Push.settles_done _ between
        · obtain ⟨result, after, hafter, hlater⟩ := ih (packing.feed scratch input).packing
            (packing.feed scratch input).rest hbetween
          refine ⟨result, after, hafter, hwrite.bind ?_⟩
          simp only [hstuck, if_false]
          exact hlater

/-- Over a writer that responds finalizing with some scratch space comes to a result, if there may
be enough calls. More of them, and more patience, make no difference. -/
theorem finishRounds_settles (hw : writer.Responds sound) (hscratch : 1 ≤ scratch)
    (packing : Packing) {world : W} (hworld : sound world) :
    ∃ result after, sound after ∧ ∀ rounds : Nat → Nat,
      (∀ patience, packing.remaining < rounds patience) →
      Push.Settles writer (fun patience => finishRounds patience scratch (rounds patience) packing)
        world (some result) after := by
  obtain ⟨answer, between, hbetween, hwrite⟩ :=
    Push.writeAll_responds hw (packing.finish scratch).output hworld
  have hsplit : ∀ rounds : Nat → Nat, (∀ patience, packing.remaining < rounds patience) →
      ∃ fewer : Nat → Nat, rounds = fun patience => fewer patience + 1 :=
    fun rounds henough => ⟨fun patience => rounds patience - 1, funext fun patience =>
      (Nat.sub_add_cancel (Nat.one_le_of_lt (henough patience))).symm⟩
  cases answer with
  | error fault =>
    refine ⟨(.error fault, { packing := (packing.finish scratch).packing }), between, hbetween,
      fun rounds henough => ?_⟩
    obtain ⟨fewer, rfl⟩ := hsplit rounds henough
    simp only [finishRounds_succ]
    exact hwrite.bind (Push.settles_done _ between)
  | ok _ =>
    rcases packing.finish_report scratch with hdone | hmore
    · refine ⟨(.ok (), ⟨(packing.finish scratch).packing, true⟩), between, hbetween,
        fun rounds henough => ?_⟩
      obtain ⟨fewer, rfl⟩ := hsplit rounds henough
      simp only [finishRounds_succ, hdone, if_true]
      exact hwrite.bind (Push.settles_done _ between)
    · have hless := (Packing.finish_going hmore).2 hscratch
      obtain ⟨result, after, hafter, hlater⟩ :=
        finishRounds_settles hw hscratch (packing.finish scratch).packing hbetween
      refine ⟨result, after, hafter, fun rounds henough => ?_⟩
      obtain ⟨fewer, rfl⟩ := hsplit rounds henough
      have hrest := hlater fewer fun patience =>
        Nat.lt_of_lt_of_le hless (Nat.le_of_lt_succ (henough patience))
      simp only [finishRounds_succ, hmore, reduceCtorEq, if_false]
      exact hwrite.bind hrest
termination_by packing.remaining

/-! ### Without scratch space -/

/-- What a write without scratch space comes to. It succeeds if the encoder takes all of the input
to hold as bits, and otherwise it is a failure. -/
def unwritten (total : Nat) (packing : Packing) (input : Bytes) : Except Fault Nat × WriterState :=
  (if (packing.feed 0 input).rest = [] then .ok total else .error noProgress,
    { packing := (packing.feed 0 input).packing })

/-- Without scratch space two calls are enough for a write, which hands nothing on. -/
theorem writeCalls_none (patience total more : Nat) {packing : Packing}
    (hopen : packing.ended = false) (input : Bytes) :
    writeCalls patience 0 total (more + 2) packing input =
      .done (some (unwritten total packing input)) := by
  obtain ⟨hout, hstops, -⟩ := Packing.feed_none hopen input
  by_cases hinput : input = []
  · subst hinput
    have hfeed : (packing.feed 0 []).rest = [] ∧ (packing.feed 0 []).packing = packing := by
      obtain ⟨blocked, hspill⟩ := packing.spill_none []
      rw [Packing.feed, hspill]
      cases blocked <;> simp [Packing.feedFrom, hopen]
    simp only [writeCalls, unwritten, hfeed, List.isEmpty_nil, if_true]
  · have hsome : input.isEmpty = false := by simpa using hinput
    rw [writeCalls, hsome]
    simp only [Bool.false_eq_true, if_false, hout, Push.writeAll_nil, Push.bind, and_true]
    by_cases hnone : (packing.feed 0 input).rest = []
    · have hmore : ¬0 = input.length := fun hzero =>
        hinput (List.eq_nil_of_length_eq_zero hzero.symm)
      simp only [writeCalls, unwritten, hnone, List.length_nil, hmore, if_false, List.isEmpty_nil,
        if_true]
    · have hstuck := hstops.resolve_left hnone
      have hleft : (packing.feed 0 input).rest.isEmpty = false := by simpa using hnone
      simp only [writeCalls, unwritten, hnone, hleft, Packing.feed_stuck hstuck, Push.writeAll_nil,
        Push.bind, Bool.false_eq_true, if_false, and_self, if_true, ite_self]

/-- Nothing else comes of it. -/
theorem writeRounds_none (patience total : Nat) {packing : Packing} (hopen : packing.ended = false)
    (input : Bytes) :
    writeRounds patience 0 total packing input = .done (unwritten total packing input) := by
  obtain ⟨calls, hcalls⟩ := exists_writeCalls_eq 0 total packing input
  have hmap := (hcalls 2 patience).symm.trans (writeCalls_none patience total calls hopen input)
  cases hpush : writeRounds patience 0 total packing input with
  | done result =>
    rw [hpush] at hmap
    exact congrArg Push.done (Option.some.inj (Push.done.inj hmap))
  | write bytes next => rw [hpush] at hmap; cases hmap
  | flush next => rw [hpush] at hmap; cases hmap
  | remark text next => rw [hpush] at hmap; cases hmap

/-! ### The states that calls lead to -/

/-- A write that may go on for a number of calls of the encoder. -/
def writeWithin (patience scratch calls : Nat) (state : WriterState) (input : Bytes) :
    Push (Option (Except Fault Nat × WriterState)) :=
  if state.finished then .done (some (.error alreadyFinalized, state))
  else writeCalls patience scratch input.length calls state.packing input

/-- Finalizing that may go on for a number of calls of the encoder. -/
def finalizeWithin (patience scratch calls : Nat) (state : WriterState) :
    Push (Option (Except Fault Unit × WriterState)) :=
  if state.finished then .done (some (.ok (), state))
  else finishRounds patience scratch calls state.packing

/-- Calls that have come to a result lead from a new layer to a state, whatever the writers below
answer. The bytes are all that have been offered to it. -/
inductive Reached (scratch : Nat) : (offered : Bytes) → WriterState → Prop
  /-- The layer is new. -/
  | new : Reached scratch [] {}
  /-- The layer has been written to. -/
  | write {offered : Bytes} {state : WriterState} {W : Type v} (writer : Writer W) (world : W)
      (patience : Nat) (bytes : Bytes) (before : Reached scratch offered state) :
      Reached scratch (offered ++ bytes)
        (((encoder patience scratch).write state bytes).run writer world).1.2
  /-- The layer has been finalized, with success or not. -/
  | finalize {offered : Bytes} {state after : WriterState} {W : Type v} (writer : Writer W)
      (world : W) (patience calls : Nat) (answer : Except Fault Unit)
      (before : Reached scratch offered state)
      (returned : ((finalizeWithin patience scratch calls state).run writer world).1 =
        some (answer, after)) :
      Reached scratch offered after

/-- What the states have in common that calls without scratch space lead to. All that was offered is
held as bits, or the encoder cannot start any more. -/
structure Confined (offered : Bytes) (state : WriterState) : Prop where
  /-- The stream is never complete. -/
  unfinished : state.finished = false
  /-- Nor has the encoder been told to end it. -/
  opened : state.packing.ended = false
  /-- No bits are put out. -/
  holds : minWidth ≤ state.packing.held.count
  /-- There are no more than four codes, or else too many. -/
  few : (state.packing.spill 0 []).blocked = true ∨
    ∃ codes, codes ≤ 4 ∧ state.packing.Gathers codes offered.length

variable {offered : Bytes} {state : WriterState}

/-- Without scratch space finalizing does not come to a result. -/
theorem Confined.goes_on (h : Confined offered state) (patience calls : Nat) :
    finalizeWithin patience 0 calls state = .done none := by
  have hbits : 8 ≤ state.packing.held.count := Nat.le_trans (by decide) h.holds
  simp only [finalizeWithin, h.unfinished, Bool.false_eq_true, if_false,
    finishRounds_goes_on hbits]

/-- Calls without scratch space keep all they have taken. -/
theorem Reached.confined (h : Reached 0 offered state) : Confined offered state := by
  induction h with
  | new => exact ⟨rfl, rfl, Nat.le_refl _, .inr ⟨0, Nat.zero_le 4, Packing.gathers_new⟩⟩
  | @write offered state W writer world patience bytes before ih =>
    have hwrite : (((encoder patience 0).write state bytes).run writer world).1.2 =
        { packing := (state.packing.feed 0 bytes).packing } := by
      simp only [encoder, ih.unfinished, Bool.false_eq_true, if_false,
        writeRounds_none _ _ ih.opened, Push.run, unwritten]
    obtain ⟨-, -, hended, hcount⟩ := Packing.feed_none ih.opened bytes
    rw [hwrite]
    refine ⟨rfl, hended, Nat.le_trans ih.holds hcount, ?_⟩
    rcases ih.few with hstuck | ⟨codes, hfew, hgathers⟩
    · rw [Packing.feed_stuck hstuck]
      exact .inl hstuck
    · rw [List.length_append]
      exact (hgathers.feed ih.opened hfew bytes).2.imp_right And.right
  | @finalize offered state after W writer world patience calls answer before returned ih =>
    rw [ih.goes_on patience calls] at returned
    cases returned

/-- A write without scratch space that succeeds has brought the encoder no more than sixteen bytes
in all. -/
theorem Confined.length_le {input : Bytes} (h : Confined offered state) (hinput : input ≠ [])
    (hall : (state.packing.feed 0 input).rest = []) : (offered ++ input).length ≤ 16 := by
  rcases h.few with hstuck | ⟨codes, hfew, hgathers⟩
  · rw [Packing.feed_stuck hstuck] at hall
    exact absurd hall hinput
  · rw [List.length_append]
    exact (hgathers.feed h.opened hfew input).1 hall

/-- A write comes to a result within some number of calls. -/
theorem exists_write_ends (hw : writer.Responds sound) (hworld : sound world) (scratch : Nat)
    (state : WriterState) (input : Bytes) :
    ∃ calls result after,
      Push.Settles writer (fun patience => writeWithin patience scratch calls state input) world
        (some result) after ∧
      Push.Settles writer (fun patience => (encoder patience scratch).write state input) world
        result after := by
  cases hfinished : state.finished with
  | true =>
    refine ⟨0, (.error alreadyFinalized, state), world, ?_, ?_⟩
    · simp only [writeWithin, hfinished, if_true]
      exact Push.settles_done _ world
    · simp only [encoder, hfinished, if_true]
      exact Push.settles_done _ world
  | false =>
    obtain ⟨calls, hcalls⟩ := exists_writeCalls_eq scratch input.length state.packing input
    obtain ⟨result, after, -, hsettles⟩ :=
      writeCalls_settles hw scratch input.length calls state.packing input hworld
    have hsame : (fun patience =>
        writeCalls patience scratch input.length calls state.packing input) =
        fun patience => (writeRounds patience scratch input.length state.packing input).map some :=
      funext (hcalls 0)
    obtain ⟨answer, rfl, hrounds⟩ := (hsame ▸ hsettles).of_map_some
    refine ⟨calls, answer, after, ?_, ?_⟩
    · simp only [writeWithin, hfinished, Bool.false_eq_true, if_false]
      exact hsettles
    · simp only [encoder, hfinished, Bool.false_eq_true, if_false]
      exact hrounds

/-- With some scratch space so does finalizing. -/
theorem exists_finalize_ends (hw : writer.Responds sound) (hworld : sound world)
    (hscratch : 1 ≤ scratch) (state : WriterState) :
    ∃ calls result after,
      Push.Settles writer (fun patience => finalizeWithin patience scratch calls state) world
        (some result) after ∧
      Push.Settles writer (fun patience => (encoder patience scratch).finalize state) world
        result after := by
  cases hfinished : state.finished with
  | true =>
    refine ⟨0, (.ok (), state), world, ?_, ?_⟩
    · simp only [finalizeWithin, hfinished, if_true]
      exact Push.settles_done _ world
    · simp only [encoder, hfinished, if_true]
      exact Push.settles_done _ world
  | false =>
    obtain ⟨result, after, -, hsettles⟩ := finishRounds_settles hw hscratch state.packing hworld
    refine ⟨state.packing.remaining + 1, result, after, ?_, ?_⟩
    · simp only [finalizeWithin, hfinished, Bool.false_eq_true, if_false]
      exact hsettles (fun _ => state.packing.remaining + 1) fun _ => Nat.lt_succ_self _
    · simp only [encoder, hfinished, Bool.false_eq_true, if_false]
      exact (hsettles (fun patience => patience + state.packing.remaining + 1)
        fun patience => by omega).map _

/-- Every write comes to a result within some number of calls of the encoder, whatever calls have
led to the state of the layer and whatever writer below responds, and so does finalizing if there
is scratch space.

Without scratch space a write makes no more than two calls, hands nothing on, and is a failure
unless the encoder takes all of the input, which is not so if more than sixteen bytes have been
offered in all. Finalizing does not come to a result then, however many calls of the encoder it
makes. -/
theorem loops_end {scratch : Nat} {offered : Bytes} {state : WriterState}
    (h : Reached.{v} scratch offered state) :
    (∀ {W : Type v} (writer : Writer W) (sound : W → Prop) (world : W),
      writer.Responds sound → sound world →
      (∀ input, ∃ calls result after,
        Push.Settles writer (fun patience => writeWithin patience scratch calls state input) world
          (some result) after ∧
        Push.Settles writer (fun patience => (encoder patience scratch).write state input) world
          result after) ∧
      (1 ≤ scratch → ∃ calls result after,
        Push.Settles writer (fun patience => finalizeWithin patience scratch calls state) world
          (some result) after ∧
        Push.Settles writer (fun patience => (encoder patience scratch).finalize state) world
          result after)) ∧
    (scratch = 0 →
      (∀ input, ∃ answer after,
        (∀ patience, writeWithin patience scratch 2 state input = .done (some (answer, after))) ∧
        ((state.packing.feed 0 input).rest = [] → answer = .ok input.length) ∧
        ((state.packing.feed 0 input).rest ≠ [] → answer = .error noProgress) ∧
        (input ≠ [] → 16 < (offered ++ input).length → answer = .error noProgress)) ∧
      ∀ patience calls, finalizeWithin patience scratch calls state = .done none) := by
  constructor
  · intro W writer sound world hw hworld
    exact ⟨exists_write_ends hw hworld scratch state,
      fun hscratch => exists_finalize_ends hw hworld hscratch state⟩
  · rintro rfl
    have hconfined := h.confined
    refine ⟨fun input => ?_, hconfined.goes_on⟩
    refine ⟨(unwritten input.length state.packing input).1,
      (unwritten input.length state.packing input).2, fun patience => ?_, fun hall => ?_,
      fun hmore => ?_, fun hinput hmany => ?_⟩
    · simp only [writeWithin, hconfined.unfinished, Bool.false_eq_true, if_false]
      exact writeCalls_none patience input.length 0 hconfined.opened input
    · simp only [unwritten, hall, if_true]
    · simp only [unwritten, hmore, if_false]
    · have hmore : (state.packing.feed 0 input).rest ≠ [] := fun hall =>
        Nat.not_le.mpr hmany (hconfined.length_le hinput hall)
      simp only [unwritten, hmore, if_false]

/-- Five bytes are written, and then twelve more, without scratch space, over a sink that interrupts
its first two writes. The second write is a failure, and finalizing does not come to a result. With
a byte of scratch space both come to one. -/
theorem loops_end_over_interrupting_sink :
    let fault : Fault := .described .interrupted "again"
    let sink : EncoderStack 0 × Outlet ScriptedSink :=
      (.bottom, { sink := { script := .failsFirst 2 fault }, attached := true })
    let five : Bytes := [104, 101, 108, 108, 111]
    let twelve : Bytes := five ++ five ++ [33, 33]
    let state := (((encoder 0 0).write {} five).run (EncoderStack.writer 0) sink).1.2
    (∃ after, ∀ patience,
        writeWithin patience 0 2 state twelve = .done (some (.error noProgress, after))) ∧
      (∀ patience calls, finalizeWithin patience 0 calls state = .done none) ∧
      (∃ calls result after, Push.Settles (EncoderStack.writer 0)
        (fun patience => writeWithin patience 1 calls {} twelve) sink (some result) after) ∧
      ∃ calls result after, Push.Settles (EncoderStack.writer 0)
        (fun patience => finalizeWithin patience 1 calls {}) sink (some result) after := by
  intro fault sink five twelve state
  have hpersists : (EncoderStack.writer 0).Persists (ScriptedSink.Interrupts 2 fault) :=
    ScriptedSink.persists rfl
  have hsink : ∃ got, ScriptedSink.Interrupts 2 fault sink got := ⟨[], rfl, rfl, rfl⟩
  have hreached : Reached.{1} 0 ([] ++ five) state :=
    Reached.write (EncoderStack.writer 0) sink 0 five .new
  obtain ⟨-, hnone⟩ := loops_end hreached
  obtain ⟨hwrite, hfinalize⟩ := hnone rfl
  obtain ⟨answer, after, hanswer, -, -, hfails⟩ := hwrite twelve
  obtain ⟨hsome, -⟩ := loops_end (@Reached.new.{1} 1)
  obtain ⟨hwrites, hfinalizes⟩ := hsome (EncoderStack.writer 0) _ sink hpersists.responds hsink
  refine ⟨⟨after, fun patience => ?_⟩, hfinalize, ?_, ?_⟩
  · rw [hanswer patience, hfails (by decide) (by decide)]
  · obtain ⟨calls, result, after, hsettles, -⟩ := hwrites twelve
    exact ⟨calls, result, after, hsettles⟩
  · obtain ⟨calls, result, after, hsettles, -⟩ := hfinalizes (Nat.le_refl 1)
    exact ⟨calls, result, after, hsettles⟩

/-- A write that is short enough for its codes to be held as bits succeeds without scratch space. -/
theorem short_write_succeeds (patience : Nat) {input : Bytes} (hshort : input.length ≤ 5) :
    ∃ after, (encoder patience 0).write {} input = .done (.ok input.length, after) := by
  have htakes : (({} : Packing).feed 0 input).rest = [] :=
    Packing.gathers_new.takes rfl (Nat.zero_le 4) (by omega)
  refine ⟨({ packing := (({} : Packing).feed 0 input).packing } : WriterState), ?_⟩
  have hopen : ({} : Packing).ended = false := rfl
  simp only [encoder, Bool.false_eq_true, if_false, writeRounds_none _ _ hopen, unwritten, htakes,
    if_true]

/-- A new layer without scratch space that is finalized does not come to a result, however many
calls of the encoder it makes, and five bytes are written to it with success. -/
theorem new_layer_needs_scratch_space :
    (∀ patience calls, finalizeWithin patience 0 calls {} = .done none) ∧
      ([104, 101, 108, 108, 111] : Bytes) ≠ [] ∧
      ∃ after, (encoder 0 0).write {} [104, 101, 108, 108, 111] = .done (.ok 5, after) :=
  ⟨Reached.new.{0}.confined.goes_on, nofun, short_write_succeeds 0 (by decide)⟩

end ContentCoding.Lzw
