import ContentCoding.Proofs.Calls

/-!
# The lifecycle that callers see

A guard keeps a mark, the error of a failed building and the state behind its
lock, and these disagree once a factory has broken off. What callers see is
simpler: a machine with five stages, which builds at most once. `Represents`
relates the two, `Follows` says what a reply has to do with the machine's ruling
on the call, and the main statement is that both pipelines follow the machine
through every run. They differ in how they are closed: a fresh compressor is
built by its close, a fresh decompressor is not.

What the layers answer is no business of the machine. Where it rules that a call
is forwarded, the reply is the answer of the top layer.
-/

namespace ContentCoding

universe u v w

/-- Change what was built. -/
def Building.map {C : Type u} {D : Type v} (f : C → D) : Building C → Building D
  | .built chain => .built (f chain)
  | .failed error => .failed error
  | .crashed => .crashed

/-- How far a pipeline has come, as callers see it. -/
inductive Stage
  /-- Nothing has been built yet. -/
  | fresh
  /-- A chain of layers with these names stands. -/
  | built (names : List String)
  /-- Building failed with this error. -/
  | failed (error : PipelineError)
  /-- A factory broke off. -/
  | poisoned
  /-- The pipeline has been closed. -/
  | closed

/-- What a call asks for. -/
inductive Demand
  /-- That the chain be built. -/
  | build
  /-- That the top layer take or give bytes. -/
  | transfer
  /-- That the top layer flush. -/
  | flush
  /-- That the pipeline be closed. -/
  | close
  /-- To know something about the pipeline. -/
  | look

/-- What the machine says about a call. -/
inductive Ruling
  /-- It returns, and no layer is asked. -/
  | returns
  /-- It reports an error, and no layer is asked. -/
  | refuses (error : PipelineError)
  /-- It breaks off. -/
  | crashes
  /-- It is handed to the top layer, whose answer is the reply. -/
  | forwards
  /-- The layers are finalized, and what comes of that is the reply. -/
  | finalizes
  /-- It tells the names of the layers, if there are any. -/
  | reports (names : Option (List String))

/-- Whether a call that is ruled on without a layer returns. -/
def Ruling.status : Ruling → Outcome PipelineError Unit
  | .refuses error => .failed error
  | .crashes => .crashed
  | _ => .done ()

namespace Stage

/-- The stage once the chain is wanted. Only a fresh pipeline builds, and `outcome` says
what comes of that. -/
def settle (outcome : Building (List String)) : Stage → Stage
  | fresh => match outcome with
    | .built names => built names
    | .failed error => failed error
    | .crashed => poisoned
  | stage => stage

/-- The ruling on a call that wants the chain, where `served` is the one with a chain. -/
def rule (outcome : Building (List String)) (served : Ruling) (stage : Stage) : Ruling :=
  match stage.settle outcome, stage with
  | poisoned, fresh => .crashes
  | built _, _ => served
  | failed error, _ => .refuses error
  | _, _ => .refuses .closed

/-- The names of the layers, while a chain stands. -/
def names? : Stage → Option (List String)
  | built names => some names
  | _ => none

/-- Whether a call builds the chain. An eager pipeline is built by its close. -/
def builds (eager : Bool) : Stage → Demand → Bool
  | fresh, .build => true
  | fresh, .transfer => true
  | fresh, .close => eager
  | _, _ => false

/-- The ruling on a close and the stage after it. -/
def close (outcome : Building (List String)) (eager : Bool) : Stage → Ruling × Stage
  | fresh =>
    if eager then
      match outcome with
      | .built _ => (.finalizes, closed)
      | .failed error => (.refuses error, closed)
      | .crashed => (.crashes, poisoned)
    else (.returns, closed)
  | built _ => (.finalizes, closed)
  | failed _ => (.returns, closed)
  | poisoned => (if eager then .refuses .closed else .returns, closed)
  | closed => (.returns, closed)

/-- The ruling on a call and the stage after it. -/
def answer (outcome : Building (List String)) (eager : Bool) (stage : Stage) :
    Demand → Ruling × Stage
  | .build => (stage.rule outcome .returns, stage.settle outcome)
  | .transfer => (stage.rule outcome .forwards, stage.settle outcome)
  | .flush => (if stage.names?.isSome then .forwards else .returns, stage)
  | .close => stage.close outcome eager
  | .look => (.reports stage.names?, stage)

/-- The stage after a run of calls on a fresh pipeline. -/
def after (outcome : Building (List String)) (eager : Bool) (demands : List Demand) : Stage :=
  serve (answer outcome eager) fresh demands

/-- A settled stage is not the first one. -/
theorem settle_ne_fresh (outcome : Building (List String)) (stage : Stage) :
    stage.settle outcome ≠ fresh := by
  cases stage <;> cases outcome <;> simp [settle]

/-- A call that wants the chain is served by one that stands after settling. Without one
it is refused or breaks off, whatever it is. -/
theorem rule_cases (outcome : Building (List String)) (stage : Stage) :
    (∃ names, stage.settle outcome = built names ∧ ∀ served, stage.rule outcome served = served) ∨
      (∃ error, ∀ served, stage.rule outcome served = .refuses error) ∨
      (∀ served, stage.rule outcome served = .crashes) := by
  cases stage with
  | fresh =>
    cases outcome with
    | built names => exact .inl ⟨names, rfl, fun _ => rfl⟩
    | failed error => exact .inr (.inl ⟨error, fun _ => rfl⟩)
    | crashed => exact .inr (.inr fun _ => rfl)
  | built names => exact .inl ⟨names, rfl, fun _ => rfl⟩
  | failed error => exact .inr (.inl ⟨error, fun _ => rfl⟩)
  | poisoned => exact .inr (.inl ⟨.closed, fun _ => rfl⟩)
  | closed => exact .inr (.inl ⟨.closed, fun _ => rfl⟩)

/-- A call that is refused finds no chain. -/
theorem names?_settle_of_refused {outcome : Building (List String)} {stage : Stage}
    {error : PipelineError} (h : (stage.rule outcome .returns).status = .failed error) :
    (stage.settle outcome).names? = none := by
  rcases stage.rule_cases outcome with ⟨names, -, hr⟩ | ⟨other, hr⟩ | hr
  · rw [hr] at h
    cases h
  · cases stage with
    | fresh => cases outcome <;> first | rfl | cases hr .returns
    | built names => cases hr .returns
    | _ => rfl
  · rw [hr] at h
    cases h

/-- A close closes, unless it builds and a factory breaks off. -/
theorem close_closes (outcome : Building (List String)) (eager : Bool) (stage : Stage) :
    (stage.close outcome eager).2 = closed ∨ (stage.close outcome eager).1 = .crashes := by
  cases stage with
  | fresh => cases eager <;> cases outcome <;> simp [close]
  | _ => exact .inl rfl

/-- Only a fresh pipeline builds. -/
theorem builds_eq_false {eager : Bool} {stage : Stage} (h : stage ≠ fresh) (demand : Demand) :
    stage.builds eager demand = false := by
  cases stage with
  | fresh => exact absurd rfl h
  | _ => cases demand <;> rfl

/-- Nothing brings a pipeline back to its first stage. -/
theorem answer_ne_fresh (outcome : Building (List String)) (eager : Bool) {stage : Stage}
    (h : stage ≠ fresh) (demand : Demand) : (stage.answer outcome eager demand).2 ≠ fresh := by
  cases stage with
  | fresh => exact absurd rfl h
  | _ => cases demand <;> simp [answer, settle, close]

/-- A call that builds leaves the first stage. -/
theorem answer_ne_fresh_of_builds (outcome : Building (List String)) {eager : Bool}
    {stage : Stage} {demand : Demand} (h : stage.builds eager demand = true) :
    (stage.answer outcome eager demand).2 ≠ fresh := by
  cases stage with
  | fresh =>
    cases outcome <;> cases eager <;> cases demand <;> simp_all [answer, settle, close, builds]
  | _ => cases demand <;> simp [builds] at h

/-- After a call that builds no call builds again. -/
theorem builds_once (outcome : Building (List String)) (eager : Bool) (earlier : List Demand)
    (demand : Demand) (later : List Demand) (next : Demand)
    (h : (after outcome eager earlier).builds eager demand = true) :
    (after outcome eager (earlier ++ demand :: later)).builds eager next = false := by
  have left : after outcome eager (earlier ++ demand :: later) ≠ fresh := by
    have hstep := answer_ne_fresh_of_builds outcome h
    rw [after, serve, List.foldl_append, List.foldl_cons]
    exact serve_induction (motive := fun _ stage => stage ≠ fresh) _ _ hstep
      (fun _ _ request hs => answer_ne_fresh outcome eager hs request) later
  exact builds_eq_false left next

end Stage

/-- The guard holds what it holds at a stage. -/
def Represents {S : Type u} {T : Type v} (names : T → List String) :
    Stage → InitGuard S T → Prop
  | .fresh, guard => ∃ base, guard = ⟨.unbuilt, none, .unbuilt base⟩
  | .built list, guard => ∃ chain, guard = ⟨.built, none, .built chain⟩ ∧ names chain = list
  | .failed error, guard => guard = ⟨.failed, some error, .failed⟩
  | .poisoned, guard => guard = ⟨.unbuilt, none, .failed⟩
  | .closed, guard => ∃ failure, guard = ⟨.closed, failure, .closed⟩

namespace Represents

variable {S : Type u} {T : Type v} {W : Type w} {names : T → List String}
variable {stage : Stage} {guard : InitGuard S T}

/-- A call that wants the chain is answered as the machine rules, and leaves the guard at
the settled stage. -/
theorem initWith (h : Represents names stage guard) {build : S → W → Building T × W}
    {world : W} {outcome : Building (List String)}
    (hbuild : ∀ base, guard.state = .unbuilt base → (build base world).1.map names = outcome) :
    (guard.initWith build world).1 = (stage.rule outcome .returns).status ∧
      Represents names (stage.settle outcome) (guard.initWith build world).2.1 := by
  cases stage with
  | fresh =>
    obtain ⟨base, rfl⟩ := h
    have hb := hbuild base rfl
    simp only [InitGuard.initWith, InitGuard.settled]
    cases hw : build base world with
    | mk building after =>
      rw [hw] at hb
      subst hb
      cases building with
      | built chain => exact ⟨rfl, chain, rfl, rfl⟩
      | failed error => exact ⟨rfl, rfl⟩
      | crashed => exact ⟨rfl, rfl⟩
  | built list =>
    obtain ⟨chain, rfl, rfl⟩ := h
    exact ⟨rfl, chain, rfl, rfl⟩
  | failed error => subst h; exact ⟨rfl, rfl⟩
  | poisoned => subst h; exact ⟨rfl, rfl⟩
  | closed =>
    obtain ⟨failure, rfl⟩ := h
    exact ⟨rfl, failure, rfl⟩

/-- Only at the first stage is there a base to build on. -/
theorem fresh_of_unbuilt (h : Represents names stage guard) {base : S}
    (hs : guard.state = .unbuilt base) : stage = .fresh := by
  cases stage with
  | fresh => rfl
  | built list => obtain ⟨chain, rfl, -⟩ := h; cases hs
  | failed error => subst h; cases hs
  | poisoned => subst h; cases hs
  | closed => obtain ⟨failure, rfl⟩ := h; cases hs

/-- The mark says that the chain stands exactly when the stage has names. -/
theorem isBuilt (h : Represents names stage guard) : guard.isBuilt = stage.names?.isSome := by
  cases stage with
  | fresh => obtain ⟨base, rfl⟩ := h; rfl
  | built list => obtain ⟨chain, rfl, -⟩ := h; rfl
  | failed error => subst h; rfl
  | poisoned => subst h; rfl
  | closed => obtain ⟨failure, rfl⟩ := h; rfl

/-- Behind a mark that says so a chain stands. -/
theorem eq_of_isBuilt (h : Represents names stage guard) (hb : guard.isBuilt = true) :
    ∃ chain, stage = .built (names chain) ∧ guard = ⟨.built, none, .built chain⟩ := by
  rw [h.isBuilt] at hb
  cases stage with
  | built list =>
    obtain ⟨chain, rfl, rfl⟩ := h
    exact ⟨chain, rfl, rfl⟩
  | _ => cases hb

/-- A chain stands only behind a mark that says so. -/
theorem isBuilt_of_state (h : Represents names stage guard) {chain : T}
    (hs : guard.state = .built chain) : guard.isBuilt = true := by
  cases stage with
  | fresh => obtain ⟨base, rfl⟩ := h; cases hs
  | built list => obtain ⟨chain, rfl, -⟩ := h; rfl
  | failed error => subst h; cases hs
  | poisoned => subst h; cases hs
  | closed => obtain ⟨failure, rfl⟩ := h; cases hs

/-- A look at the chain's names sees those of the stage. -/
theorem withBuilt (h : Represents names stage guard) {R : Type} (look : List String → R) :
    guard.withBuilt (fun chain => look (names chain)) = stage.names?.map look := by
  cases stage with
  | fresh => obtain ⟨base, rfl⟩ := h; rfl
  | built list => obtain ⟨chain, rfl, rfl⟩ := h; rfl
  | failed error => subst h; rfl
  | poisoned => subst h; rfl
  | closed => obtain ⟨failure, rfl⟩ := h; rfl

/-- Without a chain a guard hands back nothing when it is closed. -/
theorem close_fst (h : Represents names stage guard) (hn : stage.names? = none) :
    guard.close.1 = none := by
  cases stage with
  | fresh => obtain ⟨base, rfl⟩ := h; rfl
  | built list => cases hn
  | failed error => subst h; rfl
  | poisoned => subst h; rfl
  | closed => obtain ⟨failure, rfl⟩ := h; rfl

/-- Without a chain the mark does not say that one stands. -/
theorem not_isBuilt (h : Represents names stage guard) (hn : stage.names? = none) :
    guard.isBuilt = false := by
  rw [h.isBuilt, hn]
  rfl

/-- Past the first stage a guard is initialized without building. -/
theorem initWith_of_ne_fresh (h : Represents names stage guard) (hf : stage ≠ .fresh)
    (build other : S → W → Building T × W) (world : W) :
    guard.initWith build world = guard.initWith other world ∧
      (guard.initWith build world).2 = (guard, world) := by
  cases stage with
  | fresh => exact absurd rfl hf
  | built list => obtain ⟨chain, rfl, -⟩ := h; exact ⟨rfl, rfl⟩
  | failed error => subst h; exact ⟨rfl, rfl⟩
  | poisoned => subst h; exact ⟨rfl, rfl⟩
  | closed => obtain ⟨failure, rfl⟩ := h; exact ⟨rfl, rfl⟩

/-- A closed guard is closed, whatever it held. -/
theorem close (guard : InitGuard S T) : Represents names .closed guard.close.2 := by
  obtain ⟨phase, failure, state⟩ := guard
  cases state <;> exact ⟨failure, rfl⟩

end Represents

namespace Compressor

variable {σ : Type} [Sink σ]

/-- What a call asks for. -/
def Call.demand : Call → Demand
  | .init => .build
  | .write _ => .transfer
  | .flush => .flush
  | .close => .close
  | .layerCount | .layerNames | .snapshot => .look

/-- What building the chain of an order over a sink comes to. -/
def prospect (sink : σ) (registry : EncoderRegistry) (order : List String) :
    Building (List String) :=
  (construct registry order .bottom { sink }).1.map Chain.names

/-- The compressor with other factories and another order. -/
def given (compressor : Compressor σ) (registry : EncoderRegistry) (order : List String) :
    Compressor σ :=
  { compressor with registry, order }

/-- The reply to a call and the compressor after it are what the ruling on the call says.
A call that is forwarded is answered by the chain that stands once the compressor has been
initialized, and leaves that chain in its place. -/
def Follows (before : Compressor σ) (request : Call) (ruling : Ruling) (reply : Reply)
    (after : Compressor σ) : Prop :=
  match ruling, request with
  | .forwards, .write bytes =>
    ∃ chain, before.init.2.guard.state = .built chain ∧
      reply = .wrote (.ofExcept (EncoderChain.write bytes chain before.init.2.outlet).1) ∧
      after.guard.state = .built (EncoderChain.write bytes chain before.init.2.outlet).2.1
  | .refuses error, .write _ => reply = .wrote (.failed error.toFault)
  | .crashes, .write _ => reply = .wrote .crashed
  | .forwards, .flush =>
    ∃ chain, before.guard.state = .built chain ∧
      reply = .flushed (EncoderChain.flush chain before.outlet).1 ∧
      after.guard.state = .built (EncoderChain.flush chain before.outlet).2.1
  | .returns, .flush => reply = .flushed (.ok ()) ∧ after = before
  | .finalizes, .close =>
    ∃ chain, before.init.2.guard.state = .built chain ∧
      reply = .status (.ofExcept (chain.finalizeAll before.init.2.outlet).1)
  | .reports names, .layerCount => reply = .count (names.map List.length) ∧ after = before
  | .reports names, .layerNames => reply = .names names ∧ after = before
  | .reports _, .snapshot => reply = .totals before.snapshot ∧ after = before
  | ruling, .init => reply = .status ruling.status
  | ruling, .close => reply = .status ruling.status
  | _, _ => False

/-- The compressor is at a stage, and nothing has been done with it at the first. -/
structure At (sink : σ) (registry : EncoderRegistry) (order : List String) (stage : Stage)
    (compressor : Compressor σ) : Prop where
  /-- The factories are those of the registry. -/
  registry_eq : compressor.registry = registry
  /-- The order is the one requested. -/
  order_eq : compressor.order = order
  /-- The guard is at the stage. -/
  guard : Represents Chain.names stage compressor.guard
  /-- The outlet is untouched as long as nothing was built. -/
  outlet_eq : stage = .fresh → compressor.outlet = { sink }

variable {sink : σ} {registry : EncoderRegistry} {order : List String} {stage : Stage}
variable {compressor : Compressor σ}

omit [Sink σ] in
/-- A new compressor is at the first stage. -/
theorem at_create (sink : σ) (registry : EncoderRegistry) (order : List String) :
    At sink registry order .fresh (create sink registry order) :=
  ⟨rfl, rfl, ⟨.bottom, rfl⟩, fun _ => rfl⟩

/-- Initializing answers as the machine rules and settles the stage. -/
theorem At.init (h : At sink registry order stage compressor) :
    compressor.init.1 = (stage.rule (prospect sink registry order) .returns).status ∧
      At sink registry order (stage.settle (prospect sink registry order)) compressor.init.2 := by
  obtain ⟨requested, factories, guard, outlet⟩ := compressor
  obtain ⟨hr, ho, hg, hout⟩ := h
  dsimp only at hr ho hg hout
  subst hr ho
  have hbuild : ∀ base, guard.state = .unbuilt base →
      (construct factories requested base outlet).1.map Chain.names =
        prospect sink factories requested := by
    intro base hs
    rw [hout (hg.fresh_of_unbuilt hs)]
    cases base
    rfl
  obtain ⟨hreply, hguard⟩ := hg.initWith hbuild
  exact ⟨hreply, rfl, rfl, hguard, fun hf => absurd hf (Stage.settle_ne_fresh _ _)⟩

/-- A write is answered by the chain of the initialized compressor, or not at all. -/
theorem write_eq (compressor : Compressor σ) (bytes : Bytes) :
    compressor.write bytes = match compressor.init.1 with
      | .done () =>
        (.ofExcept (compressor.init.2.writeBuilt bytes).1, (compressor.init.2.writeBuilt bytes).2)
      | .failed error => (.failed error.toFault, compressor.init.2)
      | .crashed => (.crashed, compressor.init.2) := by
  rw [write]
  rcases compressor.init with ⟨outcome, settled⟩
  cases outcome <;> rfl

/-- A write on a chain that stands is the chain's, and what is taken is counted. -/
theorem writeBuilt_of_built {chain : EncoderChain} (h : compressor.guard.state = .built chain)
    (bytes : Bytes) :
    compressor.writeBuilt bytes = ((EncoderChain.write bytes chain compressor.outlet).1,
      { compressor with
        guard := { compressor.guard with state := .built (EncoderChain.write bytes chain compressor.outlet).2.1 }
        outlet := (EncoderChain.write bytes chain compressor.outlet).2.2.credit
          (EncoderChain.write bytes chain compressor.outlet).1 }) := by
  obtain ⟨order, registry, ⟨phase, failure, state⟩, outlet⟩ := compressor
  dsimp only at h
  subst h
  rfl

/-- A flush on a chain that stands is the chain's. -/
theorem flush_of_built {chain : EncoderChain} (hb : compressor.guard.isBuilt = true)
    (h : compressor.guard.state = .built chain) :
    compressor.flush = ((EncoderChain.flush chain compressor.outlet).1,
      { compressor with
        guard := { compressor.guard with state := .built (EncoderChain.flush chain compressor.outlet).2.1 }
        outlet := (EncoderChain.flush chain compressor.outlet).2.2 }) := by
  obtain ⟨order, registry, ⟨phase, failure, state⟩, outlet⟩ := compressor
  dsimp only at h
  subst h
  simp only [flush, if_pos hb]
  rfl

/-- A flush without a chain does nothing. -/
theorem flush_of_not_built (h : compressor.guard.isBuilt = false) :
    compressor.flush = (.ok (), compressor) := by
  obtain ⟨order, registry, guard, outlet⟩ := compressor
  simp only [flush, h, Bool.false_eq_true, if_false]

/-- Finishing a chain that stands finalizes it, and always closes the guard. -/
theorem finish_of_built {chain : EncoderChain} (h : compressor.guard.state = .built chain) :
    compressor.finish = ((chain.finalizeAll compressor.outlet).1,
      { compressor with
        guard := compressor.guard.close.2
        outlet := (chain.finalizeAll compressor.outlet).2.1.teardown
          { (chain.finalizeAll compressor.outlet).2.2 with attached := false } }) := by
  obtain ⟨order, registry, ⟨phase, failure, state⟩, outlet⟩ := compressor
  dsimp only at h
  subst h
  rfl

/-- Finishing without a chain only closes the guard. -/
theorem finish_of_not_built (h : compressor.guard.close.1 = none) :
    compressor.finish = (.ok (), { compressor with guard := compressor.guard.close.2 }) := by
  obtain ⟨order, registry, ⟨phase, failure, state⟩, outlet⟩ := compressor
  cases state with
  | built chain => cases h
  | _ => rfl

/-- A write follows the machine. -/
theorem At.write (h : At sink registry order stage compressor) (bytes : Bytes) :
    compressor.Follows (.write bytes) (stage.rule (prospect sink registry order) .forwards)
        (.wrote (compressor.write bytes).1) (compressor.write bytes).2 ∧
      At sink registry order (stage.settle (prospect sink registry order))
        (compressor.write bytes).2 := by
  obtain ⟨hreply, hsettled⟩ := h.init
  rw [write_eq]
  rcases stage.rule_cases (prospect sink registry order) with
    ⟨names, hs, hserved⟩ | ⟨error, hrefused⟩ | hcrashed
  · rw [hs] at hsettled ⊢
    obtain ⟨chain, hguard, hnames⟩ := hsettled.guard
    have hstate : compressor.init.2.guard.state = .built chain := by rw [hguard]
    rw [hserved] at hreply ⊢
    rw [hreply]
    simp only [Ruling.status, writeBuilt_of_built hstate]
    refine ⟨⟨chain, hstate, rfl, rfl⟩, hsettled.registry_eq, hsettled.order_eq, ?_, ?_⟩
    · exact ⟨(EncoderChain.write bytes chain compressor.init.2.outlet).2.1, by rw [hguard], hnames⟩
    · exact fun hf => by cases hf
  · rw [hrefused] at hreply ⊢
    rw [hreply]
    exact ⟨rfl, hsettled⟩
  · rw [hcrashed] at hreply ⊢
    rw [hreply]
    exact ⟨rfl, hsettled⟩

/-- A flush follows the machine. -/
theorem At.flush (h : At sink registry order stage compressor) :
    compressor.Follows .flush (if stage.names?.isSome then .forwards else .returns)
        (.flushed compressor.flush.1) compressor.flush.2 ∧
      At sink registry order stage compressor.flush.2 := by
  have hb := h.guard.isBuilt
  cases stage with
  | built names =>
    obtain ⟨chain, hguard, hnames⟩ := h.guard
    have hstate : compressor.guard.state = .built chain := by rw [hguard]
    rw [flush_of_built hb hstate]
    refine ⟨⟨chain, hstate, rfl, rfl⟩, h.registry_eq, h.order_eq, ?_, ?_⟩
    · exact ⟨(EncoderChain.flush chain compressor.outlet).2.1, by rw [hguard], hnames⟩
    · exact fun hf => by cases hf
  | _ =>
    rw [flush_of_not_built hb]
    exact ⟨⟨rfl, rfl⟩, h⟩

/-- Closing is finishing, once a compressor that was never built has been initialized. -/
theorem close_eq (compressor : Compressor σ) :
    compressor.close =
      let settled := if compressor.guard.isUnbuilt then compressor.init.2 else compressor
      match if compressor.guard.isUnbuilt then compressor.init.1 else .done () with
      | .done () => (.ofExcept settled.finish.1, settled.finish.2)
      | .failed error => (.failed error, { settled with guard := settled.guard.close.2 })
      | .crashed => (.crashed, settled) := by
  rw [close]
  cases compressor.guard.isUnbuilt with
  | false => rfl
  | true =>
    generalize compressor.init = initialized
    obtain ⟨outcome, settled⟩ := initialized
    cases outcome <;> rfl

/-- A compressor that is neither fresh nor poisoned is closed as it stands. -/
theorem close_of_settled (h : compressor.guard.isUnbuilt = false) :
    compressor.close = (.ofExcept compressor.finish.1, compressor.finish.2) := by
  simp only [close, h, Bool.false_eq_true, if_false]

/-- Past the first stage a compressor is left as it was by its initialization. -/
theorem At.init_eq_self (h : At sink registry order stage compressor) (hf : stage ≠ .fresh) :
    compressor.init.2 = compressor := by
  obtain ⟨order, registry, guard, outlet⟩ := compressor
  have hg := (h.guard.initWith_of_ne_fresh hf (construct registry order)
    (construct registry order) outlet).2
  dsimp only at hg
  simp only [Compressor.init, hg]

omit [Sink σ] in
/-- Whatever is done with the outlet, a compressor whose guard was closed is closed. -/
theorem At.closed (h : At sink registry order stage compressor) (outlet : Outlet σ) :
    At sink registry order .closed { compressor with guard := compressor.guard.close.2, outlet } :=
  ⟨h.registry_eq, h.order_eq, .close _, fun hf => by cases hf⟩

/-- A close follows the machine. -/
theorem At.close (h : At sink registry order stage compressor) :
    compressor.Follows .close (stage.close (prospect sink registry order) true).1
        (.status compressor.close.1) compressor.close.2 ∧
      At sink registry order (stage.close (prospect sink registry order) true).2
        compressor.close.2 := by
  cases stage with
  | fresh =>
    obtain ⟨hreply, hsettled⟩ := h.init
    obtain ⟨base, hguard⟩ := h.guard
    have hu : compressor.guard.isUnbuilt = true := by rw [hguard]; rfl
    simp only [close_eq, hu, if_true, hreply]
    cases hp : prospect sink registry order with
    | built names =>
      rw [hp] at hsettled
      obtain ⟨chain, hbuilt, hnames⟩ := hsettled.guard
      have hstate : compressor.init.2.guard.state = .built chain := by rw [hbuilt]
      simp only [Stage.rule, Stage.settle, Stage.close, Ruling.status, if_true,
        finish_of_built hstate]
      exact ⟨⟨chain, hstate, rfl⟩, hsettled.closed _⟩
    | failed error =>
      exact ⟨rfl, hsettled.closed _⟩
    | crashed =>
      rw [hp] at hsettled
      exact ⟨rfl, hsettled⟩
  | built names =>
    obtain ⟨chain, hguard, hnames⟩ := h.guard
    have hu : compressor.guard.isUnbuilt = false := by rw [hguard]; rfl
    have hstate : compressor.guard.state = .built chain := by rw [hguard]
    rw [close_of_settled hu, finish_of_built hstate]
    refine ⟨⟨chain, ?_⟩, h.closed _⟩
    rw [h.init_eq_self (by simp)]
    exact ⟨hstate, rfl⟩
  | failed error =>
    have hu : compressor.guard.isUnbuilt = false := by rw [h.guard]; rfl
    rw [close_of_settled hu, finish_of_not_built (h.guard.close_fst rfl)]
    exact ⟨rfl, h.closed _⟩
  | poisoned =>
    obtain ⟨hreply, hsettled⟩ := h.init
    have hu : compressor.guard.isUnbuilt = true := by rw [h.guard]; rfl
    simp only [close_eq, hu, if_true, hreply]
    exact ⟨rfl, hsettled.closed _⟩
  | closed =>
    obtain ⟨failure, hguard⟩ := h.guard
    have hu : compressor.guard.isUnbuilt = false := by rw [hguard]; rfl
    rw [close_of_settled hu, finish_of_not_built (h.guard.close_fst rfl)]
    exact ⟨rfl, h.closed _⟩

/-- The machine's ruling on a call is followed, and its stage is reached. -/
theorem At.call (h : At sink registry order stage compressor) (request : Call) :
    compressor.Follows request
        (stage.answer (prospect sink registry order) true request.demand).1
        (compressor.call request).1 (compressor.call request).2 ∧
      At sink registry order (stage.answer (prospect sink registry order) true request.demand).2
        (compressor.call request).2 := by
  cases request with
  | init =>
    obtain ⟨hreply, hsettled⟩ := h.init
    refine ⟨?_, hsettled⟩
    have hc : (compressor.call .init).1 =
        .status (stage.rule (prospect sink registry order) .returns).status := by
      rw [Compressor.call, hreply]
    rw [hc]
    rcases stage.rule_cases (prospect sink registry order) with
      ⟨names, -, hr⟩ | ⟨error, hr⟩ | hr <;>
      simp only [Call.demand, Stage.answer, hr, Follows]
  | write bytes => exact h.write bytes
  | flush => exact h.flush
  | close => exact h.close
  | layerCount =>
    have hn := h.guard.withBuilt List.length
    exact ⟨⟨congrArg Reply.count hn, rfl⟩, h⟩
  | layerNames =>
    have hn := h.guard.withBuilt id
    rw [Option.map_id] at hn
    exact ⟨⟨congrArg Reply.names hn, rfl⟩, h⟩
  | snapshot => exact ⟨⟨rfl, rfl⟩, h⟩

/-- After every run the compressor is at the machine's stage. -/
theorem at_run (sink : σ) (registry : EncoderRegistry) (order : List String)
    (calls : List Call) :
    At sink registry order
      (Stage.after (prospect sink registry order) true (calls.map Call.demand))
      ((create sink registry order).run calls) := by
  refine serve_induction (motive := fun calls current => At sink registry order
    (Stage.after (prospect sink registry order) true (calls.map Call.demand)) current) _ _
    (at_create sink registry order) ?_ calls
  intro calls current request h
  rw [List.map_append, List.map_singleton, Stage.after, serve_concat]
  exact (h.call request).2

/-- Where the chain stands once it is wanted, closing is finishing the initialized
compressor. -/
theorem At.close_eq_finish (h : At sink registry order stage compressor) {names : List String}
    (hs : stage.settle (prospect sink registry order) = .built names) :
    compressor.close = (.ofExcept compressor.init.2.finish.1, compressor.init.2.finish.2) := by
  cases stage with
  | fresh =>
    obtain ⟨base, hguard⟩ := h.guard
    have hu : compressor.guard.isUnbuilt = true := by rw [hguard]; rfl
    have hreply := h.init.1
    simp only [close_eq, hu, if_true, hreply, Stage.rule, hs, Ruling.status]
  | built list =>
    obtain ⟨chain, hguard, -⟩ := h.guard
    have hu : compressor.guard.isUnbuilt = false := by rw [hguard]; rfl
    rw [h.init_eq_self (by simp), close_of_settled hu]
  | _ => cases hs

/-- Where no chain stands, closing does no more to the outlet than initializing. -/
theorem At.close_outlet (h : At sink registry order stage compressor)
    (hn : (stage.settle (prospect sink registry order)).names? = none) :
    compressor.close.2.outlet = compressor.init.2.outlet := by
  obtain ⟨-, hsettled⟩ := h.init
  have hfinish := finish_of_not_built (hsettled.guard.close_fst hn)
  rw [close_eq]
  cases hu : compressor.guard.isUnbuilt with
  | true =>
    simp only [if_true]
    cases compressor.init.1 with
    | done value => simp only [hfinish]
    | _ => rfl
  | false =>
    have hf : stage ≠ .fresh := by
      rintro rfl
      obtain ⟨base, hguard⟩ := h.guard
      rw [hguard] at hu
      cases hu
    rw [h.init_eq_self hf] at hfinish ⊢
    simp only [Bool.false_eq_true, if_false, hfinish]

/-- A closed compressor is left as it is by every call. -/
theorem At.call_closed (h : At sink registry order .closed compressor) (request : Call) :
    (compressor.call request).2 = compressor := by
  obtain ⟨failure, hguard⟩ := h.guard
  have hinit := h.init_eq_self (by simp)
  have hflush := flush_of_not_built h.guard.isBuilt
  have hclose : compressor.close.2 = compressor := by
    rw [close_of_settled (by rw [hguard]; rfl), finish_of_not_built (h.guard.close_fst rfl), hguard]
    obtain ⟨requested, factories, guard, outlet⟩ := compressor
    cases hguard
    rfl
  cases request with
  | init => exact hinit
  | write bytes =>
    simp only [Compressor.call, write_eq, h.init.1]
    exact hinit
  | flush => simp only [Compressor.call, hflush]
  | close => exact hclose
  | _ => rfl

/-- A close that does not break off leaves a closed compressor. -/
theorem At.closes (h : At sink registry order stage compressor) :
    compressor.close.1 = .crashed ∨ At sink registry order .closed compressor.close.2 := by
  obtain ⟨hfollows, hafter⟩ := h.close
  rcases stage.close_closes (prospect sink registry order) true with hc | hc
  · exact .inr (hc ▸ hafter)
  · rw [hc] at hfollows
    exact .inl (Reply.status.inj hfollows)

/-- A closed compressor is left as it is by every run of calls. -/
theorem At.run_closed (h : At sink registry order .closed compressor) (calls : List Call) :
    compressor.run calls = compressor := by
  refine serve_induction (motive := fun _ current => current = compressor) _ _ rfl ?_ calls
  rintro _ _ request rfl
  exact h.call_closed request

/-- What the top layer takes has nothing to do with the registry. -/
theorem writeBuilt_given (compressor : Compressor σ) (registry : EncoderRegistry)
    (order : List String) (bytes : Bytes) :
    (compressor.given registry order).writeBuilt bytes =
      ((compressor.writeBuilt bytes).1, (compressor.writeBuilt bytes).2.given registry order) := by
  obtain ⟨requested, factories, guard, outlet⟩ := compressor
  simp only [given, writeBuilt]
  rcases guard.useBuilt (EncoderChain.write bytes) outlet with ⟨answer, kept, left⟩
  cases answer <;> rfl

/-- What a flush does has nothing to do with the registry. -/
theorem flush_given (compressor : Compressor σ) (registry : EncoderRegistry)
    (order : List String) :
    (compressor.given registry order).flush =
      (compressor.flush.1, compressor.flush.2.given registry order) := by
  obtain ⟨requested, factories, ⟨phase, failure, state⟩, outlet⟩ := compressor
  cases phase <;> cases state <;> rfl

/-- What finishing does has nothing to do with the registry. -/
theorem finish_given (compressor : Compressor σ) (registry : EncoderRegistry)
    (order : List String) :
    (compressor.given registry order).finish =
      (compressor.finish.1, compressor.finish.2.given registry order) := by
  obtain ⟨requested, factories, ⟨phase, failure, state⟩, outlet⟩ := compressor
  cases state <;> rfl

/-- Past the first stage initializing has nothing to do with the registry. -/
theorem At.init_given (h : At sink registry order stage compressor) (hf : stage ≠ .fresh)
    (other : EncoderRegistry) (another : List String) :
    (compressor.given other another).init =
      (compressor.init.1, compressor.init.2.given other another) := by
  obtain ⟨requested, factories, guard, outlet⟩ := compressor
  have hg := (h.guard.initWith_of_ne_fresh hf (construct other another)
    (construct factories requested) outlet).1
  dsimp only at hg
  simp only [given, Compressor.init, hg]

/-- If initializing has nothing to do with the registry and the order, no call has. -/
theorem call_given_of_init {compressor : Compressor σ} {other : EncoderRegistry}
    {another : List String}
    (hinit : (compressor.given other another).init =
      (compressor.init.1, compressor.init.2.given other another)) (request : Call) :
    (compressor.given other another).call request =
      ((compressor.call request).1, (compressor.call request).2.given other another) := by
  cases request with
  | init => simp only [Compressor.call, hinit]
  | write bytes =>
    simp only [Compressor.call, write_eq, hinit, writeBuilt_given]
    cases compressor.init.1 <;> rfl
  | flush => simp only [Compressor.call, flush_given]
  | close =>
    simp only [Compressor.call, close_eq, hinit]
    have hu : (compressor.given other another).guard = compressor.guard := rfl
    rw [hu]
    cases compressor.guard.isUnbuilt with
    | true =>
      simp only [if_true]
      cases compressor.init.1 with
      | done value => simp only [finish_given]
      | failed error => rfl
      | crashed => rfl
    | false => simp only [Bool.false_eq_true, if_false, finish_given]
  | layerCount => rfl
  | layerNames => rfl
  | snapshot => rfl

/-- A call that builds no chain asks no factory: whatever the registry and the order are,
the reply is the same and the same becomes of the rest of the compressor. -/
theorem At.call_given (h : At sink registry order stage compressor) {request : Call}
    (hb : stage.builds true request.demand = false) (other : EncoderRegistry)
    (another : List String) :
    (compressor.given other another).call request =
      ((compressor.call request).1, (compressor.call request).2.given other another) := by
  by_cases hf : stage = .fresh
  · subst hf
    cases request with
    | flush => simp only [Compressor.call, flush_given]
    | layerCount => rfl
    | layerNames => rfl
    | snapshot => rfl
    | _ => cases hb
  · exact call_given_of_init (h.init_given hf other another) request

end Compressor

namespace Decompressor

variable {σ : Type} [Source σ]

/-- What a call asks for. -/
def Call.demand : Call → Demand
  | .init => .build
  | .read _ => .transfer
  | .close => .close
  | .layerCount | .layerNames | .snapshot => .look

/-- What building the chain of an order over a source comes to. -/
def prospect (source : σ) (registry : DecoderRegistry) (order : List String) :
    Building (List String) :=
  (construct registry order .bottom { source }).1.map Chain.names

/-- The decompressor with other factories and another order. -/
def given (decompressor : Decompressor σ) (registry : DecoderRegistry) (order : List String) :
    Decompressor σ :=
  { decompressor with registry, order }

/-- The reply to a call and the decompressor after it are what the ruling on the call says.
A read that is forwarded is answered by the chain that stands once the decompressor has been
initialized, and leaves that chain in its place. -/
def Follows (before : Decompressor σ) (request : Call) (ruling : Ruling) (reply : Reply)
    (after : Decompressor σ) : Prop :=
  match ruling, request with
  | .forwards, .read room =>
    ∃ chain, before.init.2.guard.state = .built chain ∧
      reply = .gave (.ofExcept (DecoderChain.read room chain before.init.2.inlet).1) ∧
      after.guard.state = .built (DecoderChain.read room chain before.init.2.inlet).2.1
  | .refuses error, .read _ => reply = .gave (.failed error.toFault)
  | .crashes, .read _ => reply = .gave .crashed
  | .finalizes, .close =>
    ∃ chain, before.guard.state = .built chain ∧
      reply = .status (.ofExcept (chain.finalizeAll before.inlet).1)
  | .reports names, .layerCount => reply = .count (names.map List.length) ∧ after = before
  | .reports names, .layerNames => reply = .names names ∧ after = before
  | .reports _, .snapshot => reply = .totals before.snapshot ∧ after = before
  | ruling, .init => reply = .status ruling.status
  | ruling, .close => reply = .status ruling.status
  | _, _ => False

/-- The decompressor is at a stage, and nothing has been done with it at the first. -/
structure At (source : σ) (registry : DecoderRegistry) (order : List String) (stage : Stage)
    (decompressor : Decompressor σ) : Prop where
  /-- The factories are those of the registry. -/
  registry_eq : decompressor.registry = registry
  /-- The order is the one requested. -/
  order_eq : decompressor.order = order
  /-- The guard is at the stage. -/
  guard : Represents Chain.names stage decompressor.guard
  /-- The inlet is untouched as long as nothing was built. -/
  inlet_eq : stage = .fresh → decompressor.inlet = { source }

variable {source : σ} {registry : DecoderRegistry} {order : List String} {stage : Stage}
variable {decompressor : Decompressor σ}

omit [Source σ] in
/-- A new decompressor is at the first stage. -/
theorem at_create (source : σ) (registry : DecoderRegistry) (order : List String) :
    At source registry order .fresh (create source registry order) :=
  ⟨rfl, rfl, ⟨.bottom, rfl⟩, fun _ => rfl⟩

/-- Initializing answers as the machine rules and settles the stage. -/
theorem At.init (h : At source registry order stage decompressor) :
    decompressor.init.1 = (stage.rule (prospect source registry order) .returns).status ∧
      At source registry order (stage.settle (prospect source registry order))
        decompressor.init.2 := by
  obtain ⟨requested, factories, guard, inlet⟩ := decompressor
  obtain ⟨hr, ho, hg, hin⟩ := h
  dsimp only at hr ho hg hin
  subst hr ho
  have hbuild : ∀ base, guard.state = .unbuilt base →
      (construct factories requested base inlet).1.map Chain.names =
        prospect source factories requested := by
    intro base hs
    rw [hin (hg.fresh_of_unbuilt hs)]
    cases base
    rfl
  obtain ⟨hreply, hguard⟩ := hg.initWith hbuild
  exact ⟨hreply, rfl, rfl, hguard, fun hf => absurd hf (Stage.settle_ne_fresh _ _)⟩

/-- A read is answered by the chain of the initialized decompressor, or not at all. -/
theorem read_eq (decompressor : Decompressor σ) (room : Nat) :
    decompressor.read room = match decompressor.init.1 with
      | .done () =>
        (.ofExcept (decompressor.init.2.readBuilt room).1,
          (decompressor.init.2.readBuilt room).2)
      | .failed error => (.failed error.toFault, decompressor.init.2)
      | .crashed => (.crashed, decompressor.init.2) := by
  rw [read]
  rcases decompressor.init with ⟨outcome, settled⟩
  cases outcome <;> rfl

/-- A read on a chain that stands is the chain's, and what is given is counted. -/
theorem readBuilt_of_built {chain : DecoderChain} (h : decompressor.guard.state = .built chain)
    (room : Nat) :
    decompressor.readBuilt room = ((DecoderChain.read room chain decompressor.inlet).1,
      { decompressor with
        guard := { decompressor.guard with
          state := .built (DecoderChain.read room chain decompressor.inlet).2.1 }
        inlet := (DecoderChain.read room chain decompressor.inlet).2.2.credit
          (DecoderChain.read room chain decompressor.inlet).1 }) := by
  obtain ⟨order, registry, ⟨phase, failure, state⟩, inlet⟩ := decompressor
  dsimp only at h
  subst h
  rfl

/-- Closing a chain that stands finalizes it. -/
theorem close_of_built {chain : DecoderChain} (h : decompressor.guard.state = .built chain) :
    decompressor.close = ((chain.finalizeAll decompressor.inlet).1,
      { decompressor with
        guard := decompressor.guard.close.2
        inlet := (chain.finalizeAll decompressor.inlet).2.1.teardown
          (chain.finalizeAll decompressor.inlet).2.2 }) := by
  obtain ⟨order, registry, ⟨phase, failure, state⟩, inlet⟩ := decompressor
  dsimp only at h
  subst h
  rfl

/-- Closing without a chain only closes the guard. -/
theorem close_of_not_built (h : decompressor.guard.close.1 = none) :
    decompressor.close = (.ok (), { decompressor with guard := decompressor.guard.close.2 }) := by
  obtain ⟨order, registry, ⟨phase, failure, state⟩, inlet⟩ := decompressor
  cases state with
  | built chain => cases h
  | _ => rfl

/-- A read follows the machine. -/
theorem At.read (h : At source registry order stage decompressor) (room : Nat) :
    decompressor.Follows (.read room) (stage.rule (prospect source registry order) .forwards)
        (.gave (decompressor.read room).1) (decompressor.read room).2 ∧
      At source registry order (stage.settle (prospect source registry order))
        (decompressor.read room).2 := by
  obtain ⟨hreply, hsettled⟩ := h.init
  rw [read_eq]
  rcases stage.rule_cases (prospect source registry order) with
    ⟨names, hs, hserved⟩ | ⟨error, hrefused⟩ | hcrashed
  · rw [hs] at hsettled ⊢
    obtain ⟨chain, hguard, hnames⟩ := hsettled.guard
    have hstate : decompressor.init.2.guard.state = .built chain := by rw [hguard]
    rw [hserved] at hreply ⊢
    rw [hreply]
    simp only [Ruling.status, readBuilt_of_built hstate]
    refine ⟨⟨chain, hstate, rfl, rfl⟩, hsettled.registry_eq, hsettled.order_eq, ?_, ?_⟩
    · exact ⟨(DecoderChain.read room chain decompressor.init.2.inlet).2.1, by rw [hguard], hnames⟩
    · exact fun hf => by cases hf
  · rw [hrefused] at hreply ⊢
    rw [hreply]
    exact ⟨rfl, hsettled⟩
  · rw [hcrashed] at hreply ⊢
    rw [hreply]
    exact ⟨rfl, hsettled⟩

omit [Source σ] in
/-- Whatever is done with the inlet, a decompressor whose guard was closed is closed. -/
theorem At.closed (h : At source registry order stage decompressor) (inlet : Inlet σ) :
    At source registry order .closed
      { decompressor with guard := decompressor.guard.close.2, inlet } :=
  ⟨h.registry_eq, h.order_eq, .close _, fun hf => by cases hf⟩

/-- A close follows the machine. -/
theorem At.close (h : At source registry order stage decompressor) :
    decompressor.Follows .close (stage.close (prospect source registry order) false).1
        (.status (.ofExcept decompressor.close.1)) decompressor.close.2 ∧
      At source registry order (stage.close (prospect source registry order) false).2
        decompressor.close.2 := by
  cases stage with
  | built names =>
    obtain ⟨chain, hguard, hnames⟩ := h.guard
    have hstate : decompressor.guard.state = .built chain := by rw [hguard]
    rw [close_of_built hstate]
    exact ⟨⟨chain, hstate, rfl⟩, h.closed _⟩
  | _ =>
    rw [close_of_not_built (h.guard.close_fst rfl)]
    exact ⟨rfl, h.closed _⟩

/-- The machine's ruling on a call is followed, and its stage is reached. -/
theorem At.call (h : At source registry order stage decompressor) (request : Call) :
    decompressor.Follows request
        (stage.answer (prospect source registry order) false request.demand).1
        (decompressor.call request).1 (decompressor.call request).2 ∧
      At source registry order
        (stage.answer (prospect source registry order) false request.demand).2
        (decompressor.call request).2 := by
  cases request with
  | init =>
    obtain ⟨hreply, hsettled⟩ := h.init
    refine ⟨?_, hsettled⟩
    have hc : (decompressor.call .init).1 =
        .status (stage.rule (prospect source registry order) .returns).status := by
      rw [Decompressor.call, hreply]
    rw [hc]
    rcases stage.rule_cases (prospect source registry order) with
      ⟨names, -, hr⟩ | ⟨error, hr⟩ | hr <;>
      simp only [Call.demand, Stage.answer, hr, Follows]
  | read room => exact h.read room
  | close => exact h.close
  | layerCount =>
    have hn := h.guard.withBuilt List.length
    exact ⟨⟨congrArg Reply.count hn, rfl⟩, h⟩
  | layerNames =>
    have hn := h.guard.withBuilt id
    rw [Option.map_id] at hn
    exact ⟨⟨congrArg Reply.names hn, rfl⟩, h⟩
  | snapshot => exact ⟨⟨rfl, rfl⟩, h⟩

/-- After every run the decompressor is at the machine's stage. -/
theorem at_run (source : σ) (registry : DecoderRegistry) (order : List String)
    (calls : List Call) :
    At source registry order
      (Stage.after (prospect source registry order) false (calls.map Call.demand))
      ((create source registry order).run calls) := by
  refine serve_induction (motive := fun calls current => At source registry order
    (Stage.after (prospect source registry order) false (calls.map Call.demand)) current) _ _
    (at_create source registry order) ?_ calls
  intro calls current request h
  rw [List.map_append, List.map_singleton, Stage.after, serve_concat]
  exact (h.call request).2

/-- Past the first stage a decompressor is left as it was by its initialization. -/
theorem At.init_eq_self (h : At source registry order stage decompressor) (hf : stage ≠ .fresh) :
    decompressor.init.2 = decompressor := by
  obtain ⟨order, registry, guard, inlet⟩ := decompressor
  have hg := (h.guard.initWith_of_ne_fresh hf (construct registry order)
    (construct registry order) inlet).2
  dsimp only at hg
  simp only [Decompressor.init, hg]

/-- A closed decompressor is left as it is by every call. -/
theorem At.call_closed (h : At source registry order .closed decompressor) (request : Call) :
    (decompressor.call request).2 = decompressor := by
  obtain ⟨failure, hguard⟩ := h.guard
  have hinit := h.init_eq_self (by simp)
  have hclose : decompressor.close.2 = decompressor := by
    rw [close_of_not_built (h.guard.close_fst rfl), hguard]
    obtain ⟨requested, factories, guard, inlet⟩ := decompressor
    cases hguard
    rfl
  cases request with
  | init => exact hinit
  | read room =>
    simp only [Decompressor.call, read_eq, h.init.1]
    exact hinit
  | close => exact hclose
  | _ => rfl

/-- A closed decompressor is left as it is by every run of calls. -/
theorem At.run_closed (h : At source registry order .closed decompressor) (calls : List Call) :
    decompressor.run calls = decompressor := by
  refine serve_induction (motive := fun _ current => current = decompressor) _ _ rfl ?_ calls
  rintro _ _ request rfl
  exact h.call_closed request

/-- What the top layer gives has nothing to do with the registry. -/
theorem readBuilt_given (decompressor : Decompressor σ) (registry : DecoderRegistry)
    (order : List String) (room : Nat) :
    (decompressor.given registry order).readBuilt room =
      ((decompressor.readBuilt room).1, (decompressor.readBuilt room).2.given registry order) := by
  obtain ⟨requested, factories, guard, inlet⟩ := decompressor
  simp only [given, readBuilt]
  rcases guard.useBuilt (DecoderChain.read room) inlet with ⟨answer, kept, left⟩
  cases answer <;> rfl

/-- What closing does has nothing to do with the registry. -/
theorem close_given (decompressor : Decompressor σ) (registry : DecoderRegistry)
    (order : List String) :
    (decompressor.given registry order).close =
      (decompressor.close.1, decompressor.close.2.given registry order) := by
  obtain ⟨requested, factories, ⟨phase, failure, state⟩, inlet⟩ := decompressor
  cases state <;> rfl

/-- Past the first stage initializing has nothing to do with the registry. -/
theorem At.init_given (h : At source registry order stage decompressor) (hf : stage ≠ .fresh)
    (other : DecoderRegistry) (another : List String) :
    (decompressor.given other another).init =
      (decompressor.init.1, decompressor.init.2.given other another) := by
  obtain ⟨requested, factories, guard, inlet⟩ := decompressor
  have hg := (h.guard.initWith_of_ne_fresh hf (construct other another)
    (construct factories requested) inlet).1
  dsimp only at hg
  simp only [given, Decompressor.init, hg]

/-- If initializing has nothing to do with the registry and the order, no call has. -/
theorem call_given_of_init {decompressor : Decompressor σ} {other : DecoderRegistry}
    {another : List String}
    (hinit : (decompressor.given other another).init =
      (decompressor.init.1, decompressor.init.2.given other another)) (request : Call) :
    (decompressor.given other another).call request =
      ((decompressor.call request).1, (decompressor.call request).2.given other another) := by
  cases request with
  | init => simp only [Decompressor.call, hinit]
  | read room =>
    simp only [Decompressor.call, read_eq, hinit, readBuilt_given]
    cases decompressor.init.1 <;> rfl
  | close => simp only [Decompressor.call, close_given]
  | layerCount => rfl
  | layerNames => rfl
  | snapshot => rfl

/-- A call that builds no chain asks no factory: whatever the registry and the order are,
the reply is the same and the same becomes of the rest of the decompressor. -/
theorem At.call_given (h : At source registry order stage decompressor) {request : Call}
    (hb : stage.builds false request.demand = false) (other : DecoderRegistry)
    (another : List String) :
    (decompressor.given other another).call request =
      ((decompressor.call request).1, (decompressor.call request).2.given other another) := by
  by_cases hf : stage = .fresh
  · subst hf
    cases request with
    | close => simp only [Decompressor.call, close_given]
    | layerCount => rfl
    | layerNames => rfl
    | snapshot => rfl
    | _ => cases hb
  · exact call_given_of_init (h.init_given hf other another) request

end Decompressor

/-- Both pipelines follow the machine, whatever calls are made and in whatever order. Before
and after each call the guard is at the machine's stage, and the reply is what the machine
rules. A call that builds is the last one to build, and a call that does not build has
nothing to do with the factories or the order. -/
theorem pipelines_follow_lifecycle :
    (∀ {σ : Type} [Sink σ] (sink : σ) (registry : EncoderRegistry) (order : List String)
        (calls : List Compressor.Call) (request : Compressor.Call),
      let outcome := Compressor.prospect sink registry order
      let stage := Stage.after outcome true (calls.map Compressor.Call.demand)
      let before := (Compressor.create sink registry order).run calls
      let ruled := stage.answer outcome true request.demand
      let (reply, after) := before.call request
      Represents Chain.names stage before.guard ∧
        before.Follows request ruled.1 reply after ∧
        Represents Chain.names ruled.2 after.guard ∧
        (stage.builds true request.demand = true → ∀ later next,
          (Stage.after outcome true
            (calls.map Compressor.Call.demand ++ request.demand :: later)).builds true next =
              false) ∧
        (stage.builds true request.demand = false → ∀ other another,
          (before.given other another).call request = (reply, after.given other another))) ∧
    (∀ {σ : Type} [Source σ] (source : σ) (registry : DecoderRegistry) (order : List String)
        (calls : List Decompressor.Call) (request : Decompressor.Call),
      let outcome := Decompressor.prospect source registry order
      let stage := Stage.after outcome false (calls.map Decompressor.Call.demand)
      let before := (Decompressor.create source registry order).run calls
      let ruled := stage.answer outcome false request.demand
      let (reply, after) := before.call request
      Represents Chain.names stage before.guard ∧
        before.Follows request ruled.1 reply after ∧
        Represents Chain.names ruled.2 after.guard ∧
        (stage.builds false request.demand = true → ∀ later next,
          (Stage.after outcome false
            (calls.map Decompressor.Call.demand ++ request.demand :: later)).builds false next =
              false) ∧
        (stage.builds false request.demand = false → ∀ other another,
          (before.given other another).call request = (reply, after.given other another))) := by
  constructor
  · intro σ _ sink registry order calls request
    have h := Compressor.at_run sink registry order calls
    obtain ⟨hfollows, hafter⟩ := h.call request
    exact ⟨h.guard, hfollows, hafter.guard,
      fun hb later next => Stage.builds_once _ true _ _ later next hb,
      fun hb other another => h.call_given hb other another⟩
  · intro σ _ source registry order calls request
    have h := Decompressor.at_run source registry order calls
    obtain ⟨hfollows, hafter⟩ := h.call request
    exact ⟨h.guard, hfollows, hafter.guard,
      fun hb later next => Stage.builds_once _ false _ _ later next hb,
      fun hb other another => h.call_given hb other another⟩

end ContentCoding
