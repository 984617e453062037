import ContentCoding.Proofs.ClosingWalk

/-!
# What reaches the sink

A compressor's outlet is attached to the caller's sink exactly while the chain
stands. So layers may write and flush as they please while they are made, when a
building fails or breaks off, and when they are destroyed after a close: the
sink sees none of it. What it does see are the writes and flushes that a caller
makes while the chain stands, and the finalizing of a close.

Nothing is assumed of the sink. A sink whose state tells every call apart is
left in the same state only if it is not called, so an equation between two
states of an arbitrary sink says that nothing reached it in between.
-/

namespace ContentCoding

namespace Compressor

variable {σ : Type} [Sink σ]

/-- An outlet stays attached, or detached, whatever is done through it. -/
theorem attached_keeps (attached : Bool) :
    Outlet.Keeps fun outlet : Outlet σ => outlet.attached = attached := by
  refine ⟨fun outlet bytes h => ?_, fun outlet h => ?_, fun _ _ h => h⟩
  · rw [Outlet.write]
    split
    · split <;> exact h
    · exact h
  · rw [Outlet.flush]
    split <;> exact h

/-- Nothing that is done through a detached outlet reaches its sink. -/
theorem detached_keeps (sink : σ) :
    Outlet.Keeps fun outlet : Outlet σ => outlet.attached = false ∧ outlet.sink = sink := by
  refine ⟨fun outlet bytes h => ?_, fun outlet h => ?_, fun _ _ h => h⟩
  · simp only [Outlet.write, h.1, Bool.false_eq_true, if_false]
    exact ⟨trivial, h.2⟩
  · simp only [Outlet.flush, h.1, Bool.false_eq_true, if_false]
    exact ⟨trivial, h.2⟩

/-- Finishing a chain that stands reaches the sink through its layers alone. -/
theorem finish_sink {compressor : Compressor σ} {chain : EncoderChain}
    (h : compressor.guard.state = .built chain) :
    compressor.finish.2.outlet.sink = (chain.finalizeAll compressor.outlet).2.2.sink := by
  rw [finish_of_built h]
  exact ((chain.finalizeAll compressor.outlet).2.1.stack.teardown_keeps
    (detached_keeps (chain.finalizeAll compressor.outlet).2.2.sink).medium
    { (chain.finalizeAll compressor.outlet).2.2 with attached := false } ⟨rfl, rfl⟩).2

/-- Constructing over a detached outlet does not reach the sink, and attaches the outlet
exactly if the chain stands. -/
theorem construct_isolated (registry : EncoderRegistry) (order : List String)
    (base : EncoderStack 0) {outlet : Outlet σ} (h : outlet.attached = false) :
    (construct registry order base outlet).2.sink = outlet.sink ∧
      (construct registry order base outlet).2.attached =
        match (construct registry order base outlet).1 with
        | .built _ => true
        | _ => false := by
  have hbuild := Chain.realize_keeps (detached_keeps outlet.sink).medium registry
    (order.filter (· != "")) ⟨0, base, []⟩ outlet ⟨h, rfl⟩
  rw [construct, Chain.build]
  rcases hb : Chain.realize registry (order.filter (· != "")) ⟨0, base, []⟩ outlet with
    ⟨chain | error | _, after⟩ <;> rw [hb] at hbuild
  · exact ⟨hbuild.2, rfl⟩
  · exact ⟨hbuild.2, hbuild.1⟩
  · exact ⟨hbuild.2, hbuild.1⟩

/-- The outlet is attached exactly while the mark says that the chain stands. -/
theorem attached_invariant (registry : EncoderRegistry) (order : List String) :
    Invariant registry order fun guard (outlet : Outlet σ) =>
      outlet.attached = guard.isBuilt := by
  refine ⟨?_, ?_, ?_, ?_, ?_⟩
  · rintro ⟨phase, failure, state⟩ outlet h
    cases phase with
    | unbuilt =>
      cases state with
      | unbuilt base =>
        have hisolated := (construct_isolated registry order base h).2
        simp only [InitGuard.initWith, InitGuard.settled]
        rcases hc : construct registry order base outlet with ⟨chain | error | _, after⟩ <;>
          rw [hc] at hisolated <;> exact hisolated
      | _ => exact h
    | _ => exact h
  · intro chain outlet bytes h
    have hwrite := (EncoderStack.writer_keeps (attached_keeps true) chain.depth).write
      (chain.stack, outlet) bytes h
    generalize (EncoderChain.write bytes chain outlet).1 = answer
    cases answer <;> exact hwrite
  · exact fun chain outlet h =>
      (EncoderStack.writer_keeps (attached_keeps true) chain.depth).flush (chain.stack, outlet) h
  · rintro ⟨phase, failure, state⟩ outlet hb - h
    rw [hb] at h
    cases state <;> exact h
  · exact fun chain outlet _ =>
      Stack.teardown_keeps (attached_keeps false).medium _ _ rfl

variable {sink : σ} {registry : EncoderRegistry} {order : List String} {stage : Stage}
variable {compressor : Compressor σ}

/-- Building the chain does not reach the sink, whatever comes of that. -/
theorem At.init_isolated (h : At sink registry order stage compressor) :
    compressor.init.2.outlet.sink = compressor.outlet.sink := by
  by_cases hf : stage = .fresh
  · subst hf
    obtain ⟨base, hguard⟩ := h.guard
    have hout := h.outlet_eq rfl
    obtain ⟨requested, factories, guard, outlet⟩ := compressor
    dsimp only at hout hguard
    subst hguard
    have hdetached : outlet.attached = false := by rw [hout]
    have hisolated := (construct_isolated factories requested base hdetached).1
    simp only [Compressor.init, InitGuard.initWith, InitGuard.settled]
    rcases hc : construct factories requested base outlet with ⟨chain | error | _, after⟩ <;>
      rw [hc] at hisolated <;> exact hisolated
  · rw [h.init_eq_self hf]

/-- Destroying a compressor without a chain does not reach the sink. -/
theorem At.abandon_isolated (h : At sink registry order stage compressor)
    (hb : compressor.guard.isBuilt = false) : compressor.abandon.sink = compressor.outlet.sink := by
  rw [h.guard.isBuilt] at hb
  obtain ⟨requested, factories, guard, outlet⟩ := compressor
  cases stage with
  | fresh => obtain ⟨base, rfl⟩ := h.guard; rfl
  | built names => cases hb
  | failed error => cases h.guard; rfl
  | poisoned => cases h.guard; rfl
  | closed => obtain ⟨failure, rfl⟩ := h.guard; rfl

/-- What the sink becomes by a call. It is reached only by the top layer's write or flush where
the chain stands, and by the visits of a close, and not after one that fails. -/
def Reaches (before : Compressor σ) (request : Call) (left : σ) : Prop :=
  match request with
  | .write bytes =>
    (before.init.2.guard.isBuilt = false ∧ left = before.outlet.sink) ∨
      ∃ chain, before.init.2.guard.state = .built chain ∧
        left = (EncoderChain.write bytes chain before.init.2.outlet).2.2.sink
  | .flush =>
    (before.guard.isBuilt = false ∧ left = before.outlet.sink) ∨
      ∃ chain, before.guard.state = .built chain ∧
        left = (EncoderChain.flush chain before.outlet).2.2.sink
  | .close =>
    (before.init.2.guard.isBuilt = false ∧ left = before.outlet.sink) ∨
      ∃ chain visits finish, before.init.2.guard.state = .built chain ∧
        ClosingWalk (chain.stack, before.init.2.outlet) visits finish ∧
        (∀ visit ∈ visits, visit.fault = none ∨ visit.after = finish) ∧
        left = finish.2.sink
  | _ => left = before.outlet.sink

/-- A write reaches the sink through the chain or not at all. -/
theorem At.write_reaches (h : At sink registry order stage compressor) (bytes : Bytes) :
    compressor.Reaches (.write bytes) (compressor.write bytes).2.outlet.sink := by
  obtain ⟨hreply, hsettled⟩ := h.init
  rw [write_eq]
  cases hb : compressor.init.2.guard.isBuilt with
  | false =>
    refine .inl ⟨hb, ?_⟩
    rcases stage.rule_cases (prospect sink registry order) with
      ⟨names, hs, -⟩ | ⟨error, hrefused⟩ | hcrashed
    · rw [hsettled.guard.isBuilt, hs] at hb
      cases hb
    · simp only [hreply, hrefused, Ruling.status, h.init_isolated]
    · simp only [hreply, hcrashed, Ruling.status, h.init_isolated]
  | true =>
    obtain ⟨chain, hs, hguard⟩ := hsettled.guard.eq_of_isBuilt hb
    have hstate : compressor.init.2.guard.state = .built chain := by rw [hguard]
    refine .inr ⟨chain, hstate, ?_⟩
    simp only [hreply, Stage.rule, hs, Ruling.status, writeBuilt_of_built hstate]
    cases (EncoderChain.write bytes chain compressor.init.2.outlet).1 <;> rfl

/-- A flush reaches the sink through the chain or not at all. -/
theorem At.flush_reaches (h : At sink registry order stage compressor) :
    compressor.Reaches .flush compressor.flush.2.outlet.sink := by
  cases hb : compressor.guard.isBuilt with
  | false => exact .inl ⟨hb, by rw [flush_of_not_built hb]⟩
  | true =>
    obtain ⟨chain, -, hguard⟩ := h.guard.eq_of_isBuilt hb
    have hstate : compressor.guard.state = .built chain := by rw [hguard]
    exact .inr ⟨chain, hstate, by rw [flush_of_built hb hstate]⟩

/-- A close reaches the sink through its walk or not at all. -/
theorem At.close_reaches (h : At sink registry order stage compressor)
    (hk : compressor.init.2.guard.Holds
      (Chain.Realizes (Outlet σ) registry (order.filter (· != "")))) :
    compressor.Reaches .close compressor.close.2.outlet.sink := by
  obtain ⟨-, hsettled⟩ := h.init
  cases hb : compressor.init.2.guard.isBuilt with
  | false =>
    refine .inl ⟨hb, ?_⟩
    rw [hsettled.guard.isBuilt, Option.isSome_eq_false_iff, Option.isNone_iff_eq_none] at hb
    rw [h.close_outlet hb, h.init_isolated]
  | true =>
    obtain ⟨chain, hs, hguard⟩ := hsettled.guard.eq_of_isBuilt hb
    have hstate : compressor.init.2.guard.state = .built chain := by rw [hguard]
    obtain ⟨visits, finish, hcloses, hfinish⟩ := (hk chain hstate).closes compressor.init.2.outlet
    refine .inr ⟨chain, visits, finish, hstate, hcloses.walk, fun visit hv => ?_, ?_⟩
    · by_cases hf : visit.fault = none
      · exact .inl hf
      · exact .inr (hcloses.walk.finish_of_fault hv hf)
    · rw [h.close_eq_finish hs, finish_sink hstate, hfinish]

/-- Whatever calls are made and in whatever order, the outlet is attached exactly while the
chain stands, and the sink is reached only by writes and flushes made while it stands and by
the finalizing of a close. It is not reached while layers are made, whether or not that goes
well, nor by their destruction, nor by any call after a close that has closed the compressor. -/
theorem sink_reached_only_while_built (sink : σ) (registry : EncoderRegistry)
    (order : List String) (calls : List Call) (request : Call) :
    let before := (create sink registry order).run calls
    let after := (before.call request).2
    before.outlet.attached = before.guard.isBuilt ∧
      before.init.2.outlet.sink = before.outlet.sink ∧
      before.Reaches request after.outlet.sink ∧
      (before.guard.isBuilt = true ∨ before.abandon.sink = before.outlet.sink) ∧
      (before.close.1 = .crashed ∨ ∀ later,
        before.close.2.run later = before.close.2 ∧
          before.close.2.abandon.sink = before.close.2.outlet.sink) := by
  have hat := at_run sink registry order calls
  have hnext : ((create sink registry order).run calls).init.2 =
      (create sink registry order).run (calls ++ [.init]) :=
    (serve_concat call (create sink registry order) calls .init).symm
  refine ⟨?_, hat.init_isolated, ?_, ?_, ?_⟩
  · exact (attached_invariant registry order).run_keeps rfl calls
  · cases request with
    | write bytes => exact hat.write_reaches bytes
    | flush => exact hat.flush_reaches
    | close => exact hat.close_reaches (hnext ▸ realizes_of_run sink registry order _)
    | init => exact hat.init_isolated
    | _ => rfl
  · cases hb : ((create sink registry order).run calls).guard.isBuilt with
    | true => exact .inl rfl
    | false => exact .inr (hat.abandon_isolated hb)
  · refine hat.closes.imp_right fun hclosed later => ⟨hclosed.run_closed later, ?_⟩
    exact hclosed.abandon_isolated (hclosed.guard.not_isBuilt rfl)

end Compressor

end ContentCoding
