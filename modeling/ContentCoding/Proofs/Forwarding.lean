import ContentCoding.Proofs.Isolation
import ContentCoding.Proofs.Simulation
import ContentCoding.Scripted.Endpoint

/-!
# Faults of the sink

An exchange forwards faults if a fault of the writer below other than an interruption ends it at
once, without another call, and is what it reports. Layers that do nothing and LZW layers forward
faults in all that they do. How they deal with interruptions is left open.

`Watched` lets a sink keep the faults that it has raised, interruptions apart. The main statement is
about a compressor over such a sink whose layers forward faults. A fault that is raised in a write or
a flush is the answer of that call, as it is. One that is raised in a close is the answer of the close
under the index and the name of the layer whose finalizing has reached the sink, however many layers
are below that one.
-/

namespace ContentCoding

universe u v w

/-- The pipeline error that a fault carries. -/
def Fault.carried? : Fault → Option PipelineError
  | .carrying _ error => some error
  | _ => none

/-- A pipeline sees the error that a fault carries, and otherwise the fault. -/
theorem Fault.toPipelineError_eq (fault : Fault) :
    fault.toPipelineError = fault.carried?.getD (.stream fault) := by
  cases fault <;> rfl

namespace Push

variable {α : Type u} {β : Type w}

/-- An exchange calls nothing any more and ends with a certain result. -/
def Concludes (post : α → Prop) : Push α → Prop
  | .done result => post result
  | .write _ _ => False
  | .flush _ => False
  | .remark _ next => next.Concludes post

/-- A fault of the writer below ends the exchange with a report of it, unless it is an
interruption. -/
def Forwards (report : Fault → α → Prop) : Push α → Prop
  | .done _ => True
  | .write _ next => (∀ answer, (next answer).Forwards report) ∧
      ∀ fault, fault.isInterruption = false → (next (.error fault)).Concludes (report fault)
  | .flush next => (∀ answer, (next answer).Forwards report) ∧
      ∀ fault, fault.isInterruption = false → (next (.error fault)).Concludes (report fault)
  | .remark _ next => next.Forwards report

/-- An exchange that calls nothing is followed by one that calls nothing either. -/
theorem Concludes.bind {post : α → Prop} {other : β → Prop} {first : Push α} {second : α → Push β}
    (h : first.Concludes post) (hnext : ∀ result, post result → (second result).Concludes other) :
    (first.bind second).Concludes other := by
  induction first with
  | done result => exact hnext result h
  | write bytes next ih => exact h.elim
  | flush next ih => exact h.elim
  | remark text next ih => exact ih h

/-- One exchange after another forwards faults if both do, and the second reports those of the
first. -/
theorem Forwards.bind {report : Fault → α → Prop} {other : Fault → β → Prop} {first : Push α}
    {second : α → Push β} (h : first.Forwards report)
    (hsecond : ∀ result, (second result).Forwards other)
    (hnext : ∀ fault result, report fault result → (second result).Concludes (other fault)) :
    (first.bind second).Forwards other := by
  induction first with
  | done result => exact hsecond result
  | write bytes next ih =>
    refine ⟨fun answer => ih answer (h.1 answer), fun fault hfault => ?_⟩
    exact (h.2 fault hfault).bind (hnext fault)
  | flush next ih =>
    refine ⟨fun answer => ih answer (h.1 answer), fun fault hfault => ?_⟩
    exact (h.2 fault hfault).bind (hnext fault)
  | remark text next ih => exact ih h

/-- A delivery forwards faults. -/
theorem deliverFor_forwards (rule : DeliveryRule) (attempts : Nat) (bytes : Bytes) :
    (deliverFor rule attempts bytes).Forwards fun fault result => result.outcome = .error fault := by
  induction attempts generalizing bytes with
  | zero => cases bytes <;> trivial
  | succ attempts ih =>
    cases bytes with
    | nil => trivial
    | cons byte bytes =>
      constructor
      · intro answer
        cases answer with
        | ok taken =>
          cases taken with
          | zero => trivial
          | succ taken => exact ih _
        | error fault =>
          by_cases hagain : (rule.retries && fault.isInterruption) = true
          · simp only [hagain, if_true]
            exact ih _
          · simp only [hagain]
            trivial
      · intro fault hfault
        simp only [hfault, Bool.and_false]
        exact rfl

/-- So does a complete write. -/
theorem writeAll_forwards (patience : Nat) (bytes : Bytes) :
    (writeAll patience bytes).Forwards fun fault answer => answer = .error fault := by
  have hdeliver := deliverFor_forwards .complete (bytes.length + patience) bytes
  exact hdeliver.bind (fun _ => trivial) fun _ _ hresult => hresult

end Push

/-- A layer of this kind forwards the faults of the writer below in all that it does. -/
structure Encoder.Forwards (encoder : Encoder) : Prop where
  /-- When it is written to. -/
  write : ∀ state bytes,
    (encoder.write state bytes).Forwards fun fault result => result.1 = .error fault
  /-- When it is flushed. -/
  flush : ∀ state, (encoder.flush state).Forwards fun fault result => result.1 = .error fault
  /-- When it is finalized. -/
  finalize : ∀ state, (encoder.finalize state).Forwards fun fault result => result.1 = .error fault

/-- A write that is handed on forwards faults. -/
theorem Push.forwardWrite_forwards {S : Type} (state : S) (bytes : Bytes) :
    (forwardWrite state bytes).Forwards fun fault result => result.1 = .error fault :=
  ⟨fun _ => trivial, fun _ _ => rfl⟩

/-- A flush that is handed on forwards faults. -/
theorem Push.forwardFlush_forwards {S : Type} (state : S) :
    (forwardFlush state).Forwards fun fault result => result.1 = .error fault :=
  ⟨fun _ => trivial, fun _ _ => rfl⟩

/-- Layers that do nothing forward faults. -/
theorem Coding.identityEncoder_forwards : Coding.identityEncoder.Forwards where
  write := Push.forwardWrite_forwards
  flush := Push.forwardFlush_forwards
  finalize _ := trivial

namespace Lzw

/-- The rounds of a write forward faults. -/
theorem writeRounds_forwards (patience scratch total : Nat) (packing : Packing) (input : Bytes) :
    (writeRounds patience scratch total packing input).Forwards
      fun fault result => result.1 = .error fault := by
  induction packing, input using writeRounds.induct scratch with
  | case1 packing =>
    rw [writeRounds_nil]
    trivial
  | case2 packing input hsome fed hnext =>
    rw [writeRounds_of_ne _ _ _ _ hsome]
    refine (Push.writeAll_forwards patience _).bind (fun answer => ?_) ?_
    · cases answer with
      | error fault => trivial
      | ok _ =>
        dsimp only
        split
        · trivial
        · exact hnext ‹_›
    · intro fault answer hanswer
      subst hanswer
      exact rfl

/-- The rounds of finalizing forward faults. -/
theorem finishRounds_forwards (patience scratch rounds : Nat) (packing : Packing) :
    (finishRounds patience scratch rounds packing).Forwards
      fun fault result => ∃ state, result = some (.error fault, state) := by
  induction rounds generalizing packing with
  | zero => trivial
  | succ rounds ih =>
    rw [finishRounds]
    refine (Push.writeAll_forwards patience _).bind (fun answer => ?_) ?_
    · cases answer with
      | error fault => trivial
      | ok _ =>
        dsimp only
        split
        · trivial
        · exact ih _
        · split
          · trivial
          · exact ih _
    · intro fault answer hanswer
      subst hanswer
      exact ⟨_, rfl⟩

/-- LZW layers forward faults. -/
theorem encoder_forwards (patience scratch : Nat) : (encoder patience scratch).Forwards where
  write state bytes := by
    simp only [encoder]
    split
    · trivial
    · exact writeRounds_forwards patience scratch bytes.length state.packing bytes
  flush := Push.forwardFlush_forwards
  finalize state := by
    simp only [encoder]
    split
    · trivial
    · refine (finishRounds_forwards patience scratch _ state.packing).bind (fun _ => trivial) ?_
      rintro fault _ ⟨after, rfl⟩
      exact rfl

end Lzw

/-- Layers that do nothing and LZW layers forward faults, beside those of which it is assumed. -/
theorem Encoder.Forwards.of_known {encoder : Encoder}
    (h : encoder = Coding.identityEncoder ∨
      (∃ patience scratch, encoder = Lzw.encoder patience scratch) ∨ encoder.Forwards) :
    encoder.Forwards := by
  obtain hsame | ⟨patience, scratch, hsame⟩ | hforwards := h
  · rw [hsame]
    exact Coding.identityEncoder_forwards
  · rw [hsame]
    exact Lzw.encoder_forwards patience scratch
  · exact hforwards

/-! ### Watching the sink -/

/-- A sink that keeps the faults it has raised, apart from interruptions. -/
structure Watched (σ : Type) where
  /-- The sink. -/
  stream : σ
  /-- The faults, in the order in which they came. -/
  raised : List Fault := []

namespace Watched

variable {σ : Type}

/-- What an answer adds to the faults. -/
def fault {α : Type} : Except Fault α → List Fault
  | .ok _ => []
  | .error fault => if fault.isInterruption then [] else [fault]

instance [Sink σ] : Sink (Watched σ) where
  write watched bytes :=
    let (answer, stream) := Sink.write watched.stream bytes
    (answer, ⟨stream, watched.raised ++ fault answer⟩)
  flush watched :=
    let (answer, stream) := Sink.flush watched.stream
    (answer, ⟨stream, watched.raised ++ fault answer⟩)

/-- A sink answers as if nothing were kept about it. -/
theorem sink_maps [Sink σ] : Sink.Maps (Watched.stream : Watched σ → σ) :=
  ⟨fun _ _ => rfl, fun _ => rfl⟩

end Watched

/-- Between two states of the sink either no fault was raised, or one that is no interruption, and
then a report says so. -/
def Surfaced (before after : List Fault) (report : Fault → Prop) : Prop :=
  after = before ∨ ∃ fault, fault.isInterruption = false ∧ after = before ++ [fault] ∧ report fault

/-- A report may say less. -/
theorem Surfaced.mono {before after : List Fault} {report other : Fault → Prop}
    (h : Surfaced before after report) (hreport : ∀ fault, report fault → other fault) :
    Surfaced before after other :=
  h.imp_right fun ⟨fault, hfault, hafter, hsays⟩ => ⟨fault, hfault, hafter, hreport fault hsays⟩

/-- An answer tells of what was raised if it is that fault. -/
theorem Watched.surfaced {α : Type} (raised : List Fault) (answer : Except Fault α) :
    Surfaced raised (raised ++ Watched.fault answer) fun fault => answer = .error fault := by
  cases answer with
  | ok value => exact .inl (List.append_nil raised)
  | error fault =>
    by_cases hfault : fault.isInterruption = true
    · exact .inl (by simp [Watched.fault, hfault])
    · have hnot : fault.isInterruption = false := by simpa using hfault
      exact .inr ⟨fault, hnot, by simp [Watched.fault, hnot], rfl⟩

/-- In worlds of a certain kind every operation of a writer answers with the fault that it raises. -/
structure Writer.Surfaces {W : Type v} (writer : Writer W) (raised : W → List Fault)
    (p : W → Prop) : Prop extends writer.Keeps p where
  /-- A write answers with the fault that it raises. -/
  surfacesWrite : ∀ world bytes, p world →
    Surfaced (raised world) (raised (writer.write world bytes).2)
      fun fault => (writer.write world bytes).1 = .error fault
  /-- So does a flush. -/
  surfacesFlush : ∀ world, p world →
    Surfaced (raised world) (raised (writer.flush world).2)
      fun fault => (writer.flush world).1 = .error fault
  /-- A line raises nothing. -/
  surfacesRemark : ∀ world text, raised (writer.remark world text) = raised world

namespace Push

variable {α : Type u} {W : Type v} {writer : Writer W} {raised : W → List Fault} {p : W → Prop}

/-- An exchange that calls nothing raises nothing. -/
theorem Concludes.run (hw : writer.Surfaces raised p) {post : α → Prop} {push : Push α}
    (h : push.Concludes post) (world : W) :
    raised (push.run writer world).2 = raised world ∧ post (push.run writer world).1 := by
  induction push generalizing world with
  | done result => exact ⟨rfl, h⟩
  | write bytes next ih => exact h.elim
  | flush next ih => exact h.elim
  | remark text next ih =>
    have hline := hw.surfacesRemark world text
    have hnext := ih h (writer.remark world text)
    exact ⟨hnext.1.trans hline, hnext.2⟩

/-- An exchange that forwards faults reports the one that is raised in it. -/
theorem Forwards.run (hw : writer.Surfaces raised p) {report : Fault → α → Prop} {push : Push α}
    (h : push.Forwards report) (world : W) (hp : p world) :
    Surfaced (raised world) (raised (push.run writer world).2)
      fun fault => report fault (push.run writer world).1 := by
  induction push generalizing world with
  | done result => exact .inl rfl
  | write bytes next ih =>
    have hkept := hw.write world bytes hp
    have hlater := ih (writer.write world bytes).1 (h.1 _) (writer.write world bytes).2 hkept
    obtain hnone | ⟨fault, hfault, hafter, hanswer⟩ := hw.surfacesWrite world bytes hp
    · rw [hnone] at hlater
      exact hlater
    · have hconcludes := h.2 fault hfault
      rw [← hanswer] at hconcludes
      have hrest := hconcludes.run hw (writer.write world bytes).2
      exact .inr ⟨fault, hfault, hrest.1.trans hafter, hrest.2⟩
  | flush next ih =>
    have hkept := hw.flush world hp
    have hlater := ih (writer.flush world).1 (h.1 _) (writer.flush world).2 hkept
    obtain hnone | ⟨fault, hfault, hafter, hanswer⟩ := hw.surfacesFlush world hp
    · rw [hnone] at hlater
      exact hlater
    · have hconcludes := h.2 fault hfault
      rw [← hanswer] at hconcludes
      have hrest := hconcludes.run hw (writer.flush world).2
      exact .inr ⟨fault, hfault, hrest.1.trans hafter, hrest.2⟩
  | remark text next ih =>
    have hline := hw.surfacesRemark world text
    have hlater := ih h (writer.remark world text) (hw.remark world text hp)
    rw [hline] at hlater
    exact hlater

end Push

section Stacks

variable {σ : Type} [Sink σ]

/-- All layers of a stack are of kinds that forward faults. -/
def EncoderStack.Forwarding {depth : Nat} (stack : EncoderStack depth) : Prop :=
  ∀ entry ∈ stack.shape, entry.2.Forwards

/-- What is done to a stack leaves its layers of the same kinds. -/
theorem EncoderStack.writer_keeps_forwarding (depth : Nat) :
    (writer depth).Keeps fun world : EncoderStack depth × Outlet σ => world.1.Forwarding := by
  refine ⟨fun world bytes h => ?_, fun world h => ?_, fun world text h => ?_⟩
  · have hshape := (writer_keeps_shape depth world.1.shape).write world bytes rfl
    rw [Forwarding, hshape]
    exact h
  · have hshape := (writer_keeps_shape depth world.1.shape).flush world rfl
    rw [Forwarding, hshape]
    exact h
  · have hshape := (writer_keeps_shape depth world.1.shape).remark world text rfl
    rw [Forwarding, hshape]
    exact h

/-- The layers below the top are layers of the stack. -/
theorem EncoderStack.Forwarding.below {depth : Nat} {name : String} {encoder : Encoder}
    {state : encoder.State} {below : EncoderStack depth}
    (h : Forwarding (.layer name encoder state below)) : encoder.Forwards ∧ below.Forwarding := by
  constructor
  · exact h (name, encoder) (by simp [Stack.shape])
  · intro entry hentry
    exact h entry (by simp [Stack.shape, hentry])

/-- The faults that the sink below a stack has raised. -/
def EncoderStack.raised {depth : Nat} (world : EncoderStack depth × Outlet (Watched σ)) :
    List Fault := world.2.sink.raised

/-- An outlet answers a write with the fault that its sink raises. -/
theorem Outlet.write_surfaces (outlet : Outlet (Watched σ)) (bytes : Bytes) :
    Surfaced outlet.sink.raised (outlet.write bytes).2.sink.raised
      fun fault => (outlet.write bytes).1 = .error fault := by
  obtain ⟨⟨stream, raised⟩, attached, counters, journal⟩ := outlet
  cases attached with
  | false => exact .inl rfl
  | true =>
    have hsink := Watched.surfaced raised (Sink.write stream bytes).1
    simp only [Outlet.write, if_true, Sink.write]
    cases hanswer : Sink.write stream bytes with
    | mk answer after =>
      rw [hanswer] at hsink
      cases answer <;> exact hsink

/-- So it does a flush. -/
theorem Outlet.flush_surfaces (outlet : Outlet (Watched σ)) :
    Surfaced outlet.sink.raised outlet.flush.2.sink.raised
      fun fault => outlet.flush.1 = .error fault := by
  obtain ⟨⟨stream, raised⟩, attached, counters, journal⟩ := outlet
  cases attached with
  | false => exact .inl rfl
  | true => exact Watched.surfaced raised (Sink.flush stream).1

/-- A stack of layers that forward faults answers with the fault that its sink raises. -/
theorem EncoderStack.writer_surfaces (depth : Nat) :
    (writer depth).Surfaces raised
      fun world : EncoderStack depth × Outlet (Watched σ) => world.1.Forwarding := by
  induction depth with
  | zero =>
    refine ⟨writer_keeps_forwarding 0, ?_, ?_, fun _ _ => rfl⟩
    · exact fun world bytes _ => world.2.write_surfaces bytes
    · exact fun world _ => world.2.flush_surfaces
  | succ depth ih =>
    refine ⟨writer_keeps_forwarding (depth + 1), ?_, ?_, fun _ _ => rfl⟩
    · rintro ⟨⟨⟩, outlet⟩ bytes h
      rename_i name encoder state below
      obtain ⟨htop, hbelow⟩ := Forwarding.below h
      exact (htop.write state bytes).run ih (below, outlet) hbelow
    · rintro ⟨⟨⟩, outlet⟩ h
      rename_i name encoder state below
      obtain ⟨htop, hbelow⟩ := Forwarding.below h
      exact (htop.flush state).run ih (below, outlet) hbelow

/-- If a registry makes only layers that forward faults for some names, the layers of a chain for
these names do. -/
theorem Chain.Realizes.forwarding {registry : EncoderRegistry} {names : List String}
    {chain : EncoderChain} (h : chain.Realizes (Outlet σ) registry names)
    (hmakes : ∀ name ∈ names, ∀ encoder,
      registry.Makes Encoder.State (Outlet σ) name encoder → encoder.Forwards) :
    EncoderStack.Forwarding chain.stack := by
  intro entry hentry
  have hname : entry.1 ∈ names := by
    rw [← h.names_eq, ← h.aligned, Stack.names_eq_shape]
    exact List.mem_map_of_mem hentry
  exact hmakes entry.1 hname entry.2 (h.made entry hentry)

/-! ### Finalizing -/

/-- Finalizing one layer answers with the fault that the sink raises. -/
theorem EncoderStack.finalizeAt_surfaces {depth : Nat} (index : Nat) (stack : EncoderStack depth)
    (outlet : Outlet (Watched σ)) (h : stack.Forwarding) :
    Surfaced outlet.sink.raised (stack.finalizeAt index outlet).2.2.sink.raised
      fun fault => (stack.finalizeAt index outlet).1 = .error fault := by
  induction stack with
  | bottom => exact .inl rfl
  | layer name encoder state below ih =>
    obtain ⟨htop, hbelow⟩ := Forwarding.below h
    rw [Stack.finalizeAt]
    split
    · exact (htop.finalize state).run (writer_surfaces _) (below, outlet) hbelow
    · exact ih hbelow

/-- The fault of a visit is the one that the sink raises in it. -/
theorem Visit.Sound.surfaces {depth : Nat} {visit : Visit Encoder.State (Outlet (Watched σ)) depth}
    (h : visit.Sound) (hforwards : EncoderStack.Forwarding visit.before.1) :
    Surfaced visit.before.2.sink.raised visit.after.2.sink.raised
      fun fault => visit.fault = some fault := by
  obtain ⟨encoder, state, -, hcall⟩ := h
  split at hcall
  · obtain ⟨hanswer, hafter⟩ := hcall
    rw [hafter]
    refine (EncoderStack.finalizeAt_surfaces _ _ _ hforwards).mono fun fault hfault => ?_
    rw [Visit.fault, hanswer, hfault]
  · rw [hcall.2]
    exact .inl rfl

/-- Each visit of a walk comes to layers of the same kinds. -/
theorem ClosingWalk.comes_forwarding {depth : Nat}
    {start finish : EncoderStack depth × Outlet (Watched σ)}
    {visits : List (Visit Encoder.State (Outlet (Watched σ)) depth)}
    (h : ClosingWalk start visits finish) (hstart : EncoderStack.Forwarding start.1) :
    ∀ visit ∈ visits, EncoderStack.Forwarding visit.before.1 := by
  obtain ⟨-, hlinked, hsound, -, -⟩ := h
  induction visits generalizing start with
  | nil => exact nofun
  | cons visit visits ih =>
    obtain ⟨hbefore, hrest⟩ := hlinked
    obtain ⟨hfirst, hlater⟩ := List.forall_mem_cons.mp hsound
    rw [← hbefore] at hstart
    have hafter : EncoderStack.Forwarding visit.after.1 := by
      obtain hsame | hsame := hfirst.after_cases
      · rw [hsame]
        exact hstart
      · rw [hsame, EncoderStack.Forwarding, Stack.finalizeAt_shape]
        exact hstart
    exact List.forall_mem_cons.mpr ⟨hstart, ih hafter hrest hlater⟩

end Stacks

namespace Compressor

variable {σ : Type} [Sink σ]

/-- The faults that the sink of a compressor has raised. -/
def raised (compressor : Compressor (Watched σ)) : List Fault := compressor.outlet.sink.raised

variable {sink : Watched σ} {registry : EncoderRegistry} {order : List String} {stage : Stage}
variable {compressor : Compressor (Watched σ)}

/-- A write answers with the fault that the sink raises in it. -/
theorem At.write_surfaces (h : At sink registry order stage compressor)
    (hforwards : compressor.init.2.guard.Holds fun chain => EncoderStack.Forwarding chain.stack)
    (bytes : Bytes) :
    Surfaced compressor.raised (compressor.write bytes).2.raised
      fun fault => (compressor.write bytes).1 = .failed fault := by
  obtain ⟨hreply, hsettled⟩ := h.init
  have hopened : compressor.init.2.raised = compressor.raised :=
    congrArg Watched.raised h.init_isolated
  obtain ⟨-, hsame⟩ | ⟨chain, hstate, -⟩ := h.write_reaches bytes
  · exact .inl (congrArg Watched.raised hsame)
  · have hb := hsettled.guard.isBuilt_of_state hstate
    obtain ⟨_, hs, -⟩ := hsettled.guard.eq_of_isBuilt hb
    have hwrite := (EncoderStack.writer_surfaces chain.depth).surfacesWrite
      (chain.stack, compressor.init.2.outlet) bytes (hforwards chain hstate)
    have hcredit : ∀ (outlet : Outlet (Watched σ)) answer,
        (outlet.credit answer).sink = outlet.sink := by
      intro outlet answer
      cases answer <;> rfl
    have hanswer : (compressor.write bytes).1 =
        .ofExcept (EncoderChain.write bytes chain compressor.init.2.outlet).1 := by
      simp only [write_eq, hreply, Stage.rule, hs, Ruling.status, writeBuilt_of_built hstate]
    have hafter : (compressor.write bytes).2.raised =
        (EncoderChain.write bytes chain compressor.init.2.outlet).2.2.sink.raised := by
      simp only [write_eq, hreply, Stage.rule, hs, Ruling.status, writeBuilt_of_built hstate,
        raised, hcredit]
    rw [hanswer, hafter, ← hopened]
    refine Surfaced.mono hwrite fun fault hfault => ?_
    exact congrArg Outcome.ofExcept hfault

/-- A flush answers with the fault that the sink raises in it. -/
theorem At.flush_surfaces (h : At sink registry order stage compressor)
    (hforwards : compressor.guard.Holds fun chain => EncoderStack.Forwarding chain.stack) :
    Surfaced compressor.raised compressor.flush.2.raised
      fun fault => compressor.flush.1 = .error fault := by
  obtain ⟨-, hsame⟩ | ⟨chain, hstate, -⟩ := h.flush_reaches
  · exact .inl (congrArg Watched.raised hsame)
  · have hb := h.guard.isBuilt_of_state hstate
    rw [flush_of_built hb hstate]
    exact (EncoderStack.writer_surfaces chain.depth).surfacesFlush
      (chain.stack, compressor.outlet) (hforwards chain hstate)

/-- A close of a chain that stands, or is built by it, is a walk over its layers. In each visit the
sink raises nothing, or a fault that the close answers with under the index and the name of the
layer. -/
theorem At.close_surfaces (h : At sink registry order stage compressor)
    (hrealizes : compressor.init.2.guard.Holds
      (Chain.Realizes (Outlet (Watched σ)) registry (order.filter (· != ""))))
    (hforwards : compressor.init.2.guard.Holds fun chain => EncoderStack.Forwarding chain.stack)
    {chain : EncoderChain} (hstate : compressor.init.2.guard.state = .built chain) :
    ∃ visits finish answer,
      ClosesChain registry order chain compressor.init.2.outlet visits finish answer ∧
      compressor.close.1 = .ofExcept answer ∧
      compressor.close.2.raised = finish.2.sink.raised ∧
      ∀ visit ∈ visits, Surfaced visit.before.2.sink.raised visit.after.2.sink.raised
        fun fault => ∃ name, chain.names[visit.index]? = some name ∧
          compressor.close.1 = .failed (.finalization visit.index name fault) := by
  have hsettled := h.init.2
  have hb := hsettled.guard.isBuilt_of_state hstate
  obtain ⟨_, hs, -⟩ := hsettled.guard.eq_of_isBuilt hb
  obtain ⟨visits, finish, hcloses, hfinish⟩ :=
    (hrealizes chain hstate).closes compressor.init.2.outlet
  have hclose := h.close_eq_finish hs
  have hanswer : compressor.close.1 = .ofExcept (chain.finalizeAll compressor.init.2.outlet).1 := by
    rw [hclose, finish_of_built hstate]
  have hsink : compressor.close.2.outlet.sink = finish.2.sink := by
    rw [hclose, finish_sink hstate, hfinish]
  have hcomes := hcloses.walk.comes_forwarding (hforwards chain hstate)
  refine ⟨visits, finish, _, hcloses, hanswer, congrArg Watched.raised hsink, fun visit hv => ?_⟩
  refine ((hcloses.walk.sound visit hv).surfaces (hcomes visit hv)).mono fun fault hfault => ?_
  obtain ⟨name, hname, herror⟩ := hcloses.attributed.error_eq visit hv fault hfault
  exact ⟨name, hname, by rw [hanswer, herror]; rfl⟩

/-- The layers of a chain that stands, or is built next, are those that the registry gives for the
order. -/
theorem realizes_of_run_init (sink : σ) (registry : EncoderRegistry) (order : List String)
    (calls : List Call) :
    ((create sink registry order).run calls).init.2.guard.Holds
      (Chain.Realizes (Outlet σ) registry (order.filter (· != ""))) := by
  have hnext : ((create sink registry order).run calls).init.2 =
      (create sink registry order).run (calls ++ [.init]) :=
    (serve_concat call (create sink registry order) calls .init).symm
  rw [hnext]
  exact realizes_of_run sink registry order (calls ++ [.init])

/-- Faults of the sink cross a stack as they are. In a stack of layers that do nothing, LZW layers and
others that forward faults, let the sink raise a fault that is no interruption. If it does so in a
write or a flush, the call answers with that fault, so that a pipeline sees the error that the fault
carries or else the fault itself. If it does so in a close, while a layer is finalized, the close
answers with the fault, attributed to the index and the name of that layer, and with its kind. A
pipeline error that crosses a stream comes back as it was.

The watch only looks on: the watched compressor is the plain one. -/
theorem sink_faults_cross_unchanged (sink : σ) (registry : EncoderRegistry) (order : List String)
    (hlayers : ∀ name ∈ order, name ≠ "" → ∀ encoder,
      registry.Makes Encoder.State (Outlet (Watched σ)) name encoder →
        encoder = Coding.identityEncoder ∨
          (∃ patience scratch, encoder = Lzw.encoder patience scratch) ∨ encoder.Forwards)
    (calls : List Call) :
    let plain := (create sink registry order).run calls
    let before := (create ({ stream := sink } : Watched σ) registry order).run calls
    (before.map Watched.stream = plain ∧
      ∀ request, (before.call request).1 = (plain.call request).1) ∧
    (∀ bytes, Surfaced before.raised (before.write bytes).2.raised
      fun fault => (before.write bytes).1 = .failed fault) ∧
    (Surfaced before.raised before.flush.2.raised fun fault => before.flush.1 = .error fault) ∧
    (before.close.2.raised = before.raised ∨
      ∃ chain visits finish answer, before.init.2.guard.state = .built chain ∧
        before.init.2.raised = before.raised ∧
        ClosesChain registry order chain before.init.2.outlet visits finish answer ∧
        before.close.1 = .ofExcept answer ∧
        before.close.2.raised = finish.2.sink.raised ∧
        ∀ visit ∈ visits, Surfaced visit.before.2.sink.raised visit.after.2.sink.raised
          fun fault => ∃ name, chain.names[visit.index]? = some name ∧
            before.close.1 = .failed (.finalization visit.index name fault) ∧
            (PipelineError.finalization visit.index name fault).kind = fault.kind) ∧
    (∀ fault : Fault, fault.toPipelineError = fault.carried?.getD (.stream fault)) ∧
    ∀ error : PipelineError, error.toFault.toPipelineError = error ∧
      error.toFault.kind = error.kind ∧ error.toFault.message = error.message := by
  intro plain before
  have hat := at_run ({ stream := sink } : Watched σ) registry order calls
  have hrealizes := realizes_of_run ({ stream := sink } : Watched σ) registry order calls
  have hsettled := realizes_of_run_init ({ stream := sink } : Watched σ) registry order calls
  have hmakes : ∀ name ∈ order.filter (· != ""), ∀ encoder,
      registry.Makes Encoder.State (Outlet (Watched σ)) name encoder → encoder.Forwards := by
    intro name hname encoder hmade
    obtain ⟨hmem, hne⟩ := List.mem_filter.mp hname
    exact .of_known (hlayers name hmem (by simpa using hne) encoder hmade)
  have hnow : before.guard.Holds fun chain => EncoderStack.Forwarding chain.stack :=
    fun chain hstate => (hrealizes chain hstate).forwarding hmakes
  have hlater : before.init.2.guard.Holds fun chain => EncoderStack.Forwarding chain.stack :=
    fun chain hstate => (hsettled chain hstate).forwarding hmakes
  have hmap : plain = before.map Watched.stream :=
    (run_map Watched.sink_maps (create ({ stream := sink } : Watched σ) registry order) calls).1
  refine ⟨⟨hmap.symm, fun request => ?_⟩, hat.write_surfaces hlater, hat.flush_surfaces hnow, ?_,
    Fault.toPipelineError_eq, ?_⟩
  · rw [hmap, call_map Watched.sink_maps]
    rfl
  · obtain ⟨-, hsame⟩ | ⟨chain, _, _, hstate, -⟩ := hat.close_reaches hsettled
    · exact .inl (congrArg Watched.raised hsame)
    · obtain ⟨visits, finish, answer, hcloses, hanswer, hraised, hvisits⟩ :=
        hat.close_surfaces hsettled hlater hstate
      refine .inr ⟨chain, visits, finish, answer, hstate, congrArg Watched.raised hat.init_isolated,
        hcloses, hanswer, hraised, fun visit hv => (hvisits visit hv).mono fun fault hfault => ?_⟩
      obtain ⟨name, hname, herror⟩ := hfault
      exact ⟨name, hname, herror, rfl⟩
  · intro error
    exact ⟨error.toPipelineError_toFault, error.kind_toFault, error.message_toFault⟩

/-- Under their tokens a built-in registry makes layers that do nothing, and LZW layers. -/
theorem makes_of_token {patience : Nat} {config : CodecConfig} {name : String} {encoder : Encoder}
    (hname : name = "identity" ∨ name = "compress")
    (h : (EncoderRegistry.ofConfig patience config).Makes Encoder.State (Outlet σ) name encoder) :
    encoder = Coding.identityEncoder ∨ ∃ patience scratch, encoder = Lzw.encoder patience scratch := by
  obtain ⟨factory, hfactory, depth, stack, outlet, state, hmade⟩ := h
  obtain ⟨coding, htoken, rfl⟩ := Coding.exists_of_get? _ hfactory
  cases coding with
  | identity =>
    cases hmade
    exact .inl rfl
  | compress =>
    simp only [Coding.encoderFactory, Coding.ifInRange] at hmade
    split at hmade
    · cases hmade
      exact .inr ⟨_, _, rfl⟩
    · cases hmade
  | _ =>
    rw [← htoken] at hname
    simp [Coding.token] at hname

/-- A sink fails its first write with a fault that carries a pipeline error. The end code of an LZW
layer over one that does nothing meets it, and the close reports it of the LZW layer. -/
theorem carrying_fault_crosses_layers :
    let fault : Fault := .carrying .timedOut .closed
    let sink : Watched ScriptedSink := { stream := { script := .failsFirst 1 fault } }
    let registry : EncoderRegistry := .ofConfig 0 {}
    let order := ["identity", "", "compress"]
    let before := (create sink registry order).run []
    before.close.1 = .failed (.finalization 1 "compress" fault) ∧
      ∃ (chain : EncoderChain), ∃ visits finish answer,
        ClosesChain registry order chain before.init.2.outlet visits finish answer ∧
        finish.2.sink.raised = [fault] ∧
        ∀ visit ∈ visits, Surfaced visit.before.2.sink.raised visit.after.2.sink.raised
          fun fault => ∃ name, chain.names[visit.index]? = some name ∧
            before.close.1 = .failed (.finalization visit.index name fault) ∧
            (PipelineError.finalization visit.index name fault).kind = fault.kind := by
  intro fault sink registry order before
  have hlayers : ∀ name ∈ order, name ≠ "" → ∀ encoder,
      registry.Makes Encoder.State (Outlet (Watched ScriptedSink)) name encoder →
        encoder = Coding.identityEncoder ∨
          (∃ patience scratch, encoder = Lzw.encoder patience scratch) ∨ encoder.Forwards := by
    intro name hname hne encoder hmade
    have htoken : name = "identity" ∨ name = "compress" := by
      simpa [order, hne] using hname
    obtain hsame | hsame := makes_of_token htoken hmade
    · exact .inl hsame
    · exact .inr (.inl hsame)
  have hanswer : before.close.1 = .failed (.finalization 1 "compress" fault) := by decide +kernel
  have hraised : before.close.2.raised = [fault] := by decide +kernel
  obtain ⟨-, -, -, hclose, -⟩ :=
    sink_faults_cross_unchanged sink.stream registry order hlayers []
  obtain hnone | ⟨chain, visits, finish, answer, -, -, hcloses, -, hfinish, hvisits⟩ := hclose
  · have hsome : before.close.2.raised = [] := hnone
    rw [hraised] at hsome
    cases hsome
  · exact ⟨hanswer, chain, visits, finish, answer, hcloses, hfinish.symm.trans hraised, hvisits⟩

end Compressor

end ContentCoding
