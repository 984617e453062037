import ContentCoding.Proofs.Lifecycle

/-!
# What calls leave as it was

A layer reaches the stack below it by reads, writes and flushes alone. So
whatever these keep is kept by everything that layers do: by being made, used,
finalized and destroyed. Two things are kept in this way: any property of the
outlet or inlet that its own operations keep, and the names and kinds of the
layers, which are those that the registry gave for the order.

`Compressor.run_keeps` and `Decompressor.run_keeps` say once what calls can do to
a pipeline. An invariant of a pipeline is proved by going through their premises.
-/

namespace ContentCoding

universe u v w

/-- Every operation of a writer keeps a property of its world. -/
structure Writer.Keeps {W : Type v} (writer : Writer W) (p : W → Prop) : Prop where
  /-- Writing keeps it. -/
  write : ∀ world bytes, p world → p (writer.write world bytes).2
  /-- Flushing keeps it. -/
  flush : ∀ world, p world → p (writer.flush world).2
  /-- Adding a line keeps it. -/
  remark : ∀ world text, p world → p (writer.remark world text)

/-- Every operation of a reader keeps a property of its world. -/
structure Reader.Keeps {W : Type v} (reader : Reader W) (p : W → Prop) : Prop where
  /-- Reading keeps it. -/
  read : ∀ world room, p world → p (reader.read world room).2
  /-- Adding a line keeps it. -/
  remark : ∀ world text, p world → p (reader.remark world text)

/-- An exchange keeps what the writer's operations keep. -/
theorem Push.run_keeps {W : Type v} {writer : Writer W} {p : W → Prop} (hw : writer.Keeps p)
    {α : Type u} (push : Push α) (world : W) (h : p world) : p (push.run writer world).2 := by
  induction push generalizing world with
  | done result => exact h
  | write bytes next ih => exact ih _ _ (hw.write world bytes h)
  | flush next ih => exact ih _ _ (hw.flush world h)
  | remark text next ih => exact ih _ (hw.remark world text h)

/-- An exchange keeps what the reader's operations keep. -/
theorem Pull.run_keeps {W : Type v} {reader : Reader W} {p : W → Prop} (hr : reader.Keeps p)
    {α : Type u} (pull : Pull α) (world : W) (h : p world) : p (pull.run reader world).2 := by
  induction pull generalizing world with
  | done result => exact h
  | read room next ih => exact ih _ _ (hr.read world room h)
  | remark text next ih => exact ih _ (hr.remark world text h)

section Layers

variable {K : Type 1} {S : K → Type} {F : Type 1} {P : Type}

/-- Names and kinds of the layers by construction index. -/
def Stack.shape : {depth : Nat} → Stack S depth → List (String × K)
  | _, .bottom => []
  | _, .layer name kind _ below => below.shape ++ [(name, kind)]

/-- The names are part of the shape. -/
theorem Stack.names_eq_shape {depth : Nat} (stack : Stack S depth) :
    stack.names = stack.shape.map Prod.fst := by
  induction stack with
  | bottom => rfl
  | layer name kind state below ih =>
    simp only [names, shape, ih, List.map_append, List.map_cons, List.map_nil]

variable [Medium S F P]

variable (S) in
/-- Making, finalizing and destroying layers keeps a property of the port. -/
structure Medium.Keeps (p : P → Prop) : Prop where
  /-- Making a layer keeps it. -/
  construct : ∀ {depth : Nat} (factory : F) (stack : Stack S depth) (port : P),
    p port → p (Medium.construct factory stack port).2.2
  /-- Finalizing a layer keeps it. -/
  finalize : ∀ {depth : Nat} (kind : K) (state : S kind) (below : Stack S depth) (port : P),
    p port → p (Medium.finalize kind state below port).2.2
  /-- Destroying a layer keeps it. -/
  teardown : ∀ {depth : Nat} (kind : K) (state : S kind) (below : Stack S depth) (port : P),
    p port → p (Medium.teardown kind state below port).2

/-- Destroying a stack keeps what destroying layers keeps. -/
theorem Stack.teardown_keeps {p : P → Prop} (hp : Medium.Keeps S p) {depth : Nat}
    (stack : Stack S depth) (port : P) (h : p port) : p (stack.teardown port) := by
  -- The layers below change as well, so the induction is on the depth alone.
  induction depth generalizing port with
  | zero => cases stack; exact h
  | succ depth ih =>
    cases stack with
    | layer name kind state below => exact ih _ _ (hp.teardown kind state below port h)

/-- Realizing names keeps what making and destroying layers keeps. -/
theorem Chain.realize_keeps {p : P → Prop} (hp : Medium.Keeps S p) (registry : Registry F)
    (names : List String) (chain : Chain S) (port : P) (h : p port) :
    p (realize registry names chain port).2 := by
  induction names generalizing chain port with
  | nil => exact h
  | cons name rest ih =>
    obtain ⟨depth, stack, list⟩ := chain
    rw [realize]
    cases registry.lookup list.length name with
    | error error => exact stack.teardown_keeps hp port h
    | ok factory =>
      have hmade := hp.construct factory stack port h
      dsimp only
      rcases hc : Medium.construct factory stack port with ⟨_ | _ | _, below, after⟩
      · rw [hc] at hmade
        exact ih _ after hmade
      · rw [hc] at hmade
        exact below.teardown_keeps hp after hmade
      · rw [hc] at hmade
        exact below.teardown_keeps hp after hmade

/-- The walk of a close keeps what finalizing layers keeps. -/
theorem Stack.finalizeAlong_keeps [LayerKind S] {p : P → Prop} (hp : Medium.Keeps S p)
    (names : List (String × Nat)) {depth : Nat} (stack : Stack S depth) (port : P) (h : p port) :
    p (stack.finalizeAlong names port).2.2 := by
  induction names generalizing depth port with
  | nil => exact h
  | cons entry names ih =>
    obtain ⟨name, index⟩ := entry
    cases stack with
    | bottom => exact h
    | layer label kind state below =>
      have htop : p (if LayerKind.finalizes kind state then Medium.finalize kind state below port
          else ((.ok (), state), below, port)).2.2 := by
        split
        · exact hp.finalize kind state below port h
        · exact h
      rw [finalizeAlong]
      generalize (if LayerKind.finalizes kind state then Medium.finalize kind state below port
        else ((.ok (), state), below, port)) = top at htop ⊢
      obtain ⟨⟨_ | _, left⟩, under, after⟩ := top
      · exact htop
      · dsimp only
        split
        · exact ih under after htop
        · exact htop

variable (S P) in
/-- A registry has a factory under a name that makes layers of a kind. -/
def Registry.Makes (registry : Registry F) (name : String) (kind : K) : Prop :=
  ∃ factory, registry.get? name = some factory ∧
    ∃ (depth : Nat) (stack : Stack S depth) (port : P) (state : S kind),
      (Medium.construct factory stack port).1 = .built kind state

/-- Making and finalizing layers keeps the shape of the stack below. -/
class Medium.KeepsShape (S : K → Type) (F : outParam (Type 1)) (P : Type) [Medium S F P] :
    Prop where
  /-- So does making a layer. -/
  construct_shape : ∀ {depth : Nat} (factory : F) (stack : Stack S depth) (port : P),
    (Medium.construct factory stack port).2.1.shape = stack.shape
  /-- So does finalizing a layer. -/
  finalize_shape : ∀ {depth : Nat} (kind : K) (state : S kind) (below : Stack S depth) (port : P),
    (Medium.finalize kind state below port).2.1.shape = below.shape

variable (P) in
/-- The layers of a chain are those that a registry gives for names. -/
structure Chain.Realizes (registry : Registry F) (names : List String) (chain : Chain S) :
    Prop where
  /-- The listed names are these. -/
  names_eq : chain.names = names
  /-- So are those that the layers carry. -/
  aligned : chain.stack.names = chain.names
  /-- The registry made each layer under its name. -/
  made : ∀ entry ∈ chain.stack.shape, registry.Makes S P entry.1 entry.2

/-- A chain with the names and kinds of one that realizes an order realizes it too. -/
theorem Chain.Realizes.of_shape {registry : Registry F} {names : List String}
    {chain other : Chain S} (h : chain.Realizes P registry names)
    (hn : other.names = chain.names) (hs : other.stack.shape = chain.stack.shape) :
    other.Realizes P registry names := by
  refine ⟨hn.trans h.names_eq, ?_, hs ▸ h.made⟩
  rw [Stack.names_eq_shape, hs, ← Stack.names_eq_shape, h.aligned, hn]

/-- Realizing names adds the layers that the registry gives for them. -/
theorem Chain.Realizes.realize [Medium.KeepsShape S F P] {registry : Registry F}
    {done names : List String} {chain result : Chain S} {port : P}
    (h : chain.Realizes P registry done)
    (hr : (Chain.realize registry names chain port).1 = .built result) :
    result.Realizes P registry (done ++ names) := by
  induction names generalizing done chain port with
  | nil =>
    obtain ⟨depth, stack, list⟩ := chain
    cases hr
    rw [List.append_nil]
    exact h
  | cons name rest ih =>
    obtain ⟨depth, stack, list⟩ := chain
    obtain ⟨hnames, haligned, hmade⟩ := h
    dsimp only at hnames haligned hmade
    subst hnames
    simp only [Chain.realize, Registry.lookup] at hr
    cases hf : registry.get? name with
    | none => rw [hf] at hr; cases hr
    | some factory =>
      rw [hf] at hr
      have hshape := Medium.KeepsShape.construct_shape factory stack port
      have hmaking : ∀ kind (state : S kind),
          (Medium.construct factory stack port).1 = .built kind state →
            registry.Makes S P name kind :=
        fun kind state hc => ⟨factory, hf, depth, stack, port, state, hc⟩
      dsimp only at hr
      rcases hc : Medium.construct factory stack port with ⟨⟨kind, state⟩ | _ | _, below, after⟩
      · rw [hc] at hr hshape
        have hnext : Chain.Realizes P registry (list ++ [name])
            ⟨depth + 1, .layer name kind state below, list ++ [name]⟩ := by
          refine ⟨rfl, ?_, ?_⟩
          · rw [Stack.names, Stack.names_eq_shape, hshape, ← Stack.names_eq_shape, haligned]
          · intro entry he
            rw [Stack.shape, hshape, List.mem_append, List.mem_singleton] at he
            rcases he with he | rfl
            · exact hmade entry he
            · exact hmaking kind state (by rw [hc])
        have hrest := ih hnext hr
        rwa [List.append_assoc, List.singleton_append] at hrest
      · rw [hc] at hr; cases hr
      · rw [hc] at hr; cases hr

/-- A chain that was just built has the layers that the registry gives for the order. -/
theorem Chain.realizes_of_build [Medium.KeepsShape S F P] {registry : Registry F}
    {order : List String} {base : Stack S 0} {port : P} {chain : Chain S}
    (h : (Chain.build registry order base port).1 = .built chain) :
    chain.Realizes P registry (order.filter (· != "")) := by
  have hbase : Chain.Realizes P registry [] ⟨0, base, []⟩ := by
    cases base
    exact ⟨rfl, rfl, fun _ he => by cases he⟩
  exact hbase.realize h

end Layers

namespace InitGuard

variable {S : Type u} {T : Type v} {W : Type w} {guard : InitGuard S T} {q : T → Prop}

/-- The chain has a property, if there is one. -/
def Holds (guard : InitGuard S T) (q : T → Prop) : Prop :=
  ∀ chain, guard.state = .built chain → q chain

/-- A chain that is built with the property has it. -/
theorem Holds.initWith (h : guard.Holds q) {build : S → W → Building T × W} {world : W}
    (hb : ∀ base chain, (build base world).1 = .built chain → q chain) :
    (guard.initWith build world).2.1.Holds q := by
  obtain ⟨phase, failure, state⟩ := guard
  cases phase with
  | unbuilt =>
    cases state with
    | unbuilt base =>
      simp only [InitGuard.initWith, InitGuard.settled]
      rcases hw : build base world with ⟨chain | error | _, after⟩
      · intro other ho
        cases ho
        exact hb base chain (by rw [hw])
      · exact fun other ho => by cases ho
      · exact fun other ho => by cases ho
    | _ => exact h
  | _ => exact h

/-- A closed guard has no chain. -/
theorem Holds.close (guard : InitGuard S T) : guard.close.2.Holds q := by
  obtain ⟨phase, failure, state⟩ := guard
  cases state <;> exact fun chain hc => by cases hc

end InitGuard

section Encoding

variable {σ : Type} [Sink σ]

/-- The operations of a sink keep a property. -/
structure Sink.Keeps (p : σ → Prop) : Prop where
  /-- Writing keeps it. -/
  write : ∀ sink bytes, p sink → p (Sink.write sink bytes).2
  /-- Flushing keeps it. -/
  flush : ∀ sink, p sink → p (Sink.flush sink).2

/-- The operations of an outlet keep a property. -/
structure Outlet.Keeps (p : Outlet σ → Prop) : Prop where
  /-- Writing keeps it. -/
  write : ∀ outlet bytes, p outlet → p (outlet.write bytes).2
  /-- Flushing keeps it. -/
  flush : ∀ outlet : Outlet σ, p outlet → p outlet.flush.2
  /-- Adding a line keeps it. -/
  remark : ∀ (outlet : Outlet σ) text, p outlet → p (outlet.remark text)

/-- An outlet does nothing with its sink but to write to it and to flush it. -/
theorem Sink.Keeps.outlet {p : σ → Prop} (hp : Sink.Keeps p) :
    Outlet.Keeps fun outlet => p outlet.sink := by
  refine ⟨fun outlet bytes h => ?_, fun outlet h => ?_, fun _ _ h => h⟩
  · have hw := hp.write outlet.sink bytes h
    rw [Outlet.write]
    split
    · split <;> rename_i hc <;> rw [hc] at hw <;> exact hw
    · exact h
  · rw [Outlet.flush]
    split
    · exact hp.flush outlet.sink h
    · exact h

/-- What an outlet's operations keep is kept by a stack over it. -/
theorem EncoderStack.writer_keeps {p : Outlet σ → Prop} (hp : Outlet.Keeps p) (depth : Nat) :
    (writer depth).Keeps fun world : EncoderStack depth × Outlet σ => p world.2 := by
  induction depth with
  | zero =>
    exact ⟨fun world bytes h => hp.write world.2 bytes h, fun world h => hp.flush world.2 h,
      fun world text h => hp.remark world.2 text h⟩
  | succ depth ih =>
    refine ⟨?_, ?_, fun world text h => hp.remark world.2 text h⟩
    · rintro ⟨⟨⟩, outlet⟩ bytes h
      exact Push.run_keeps ih _ _ h
    · rintro ⟨⟨⟩, outlet⟩ h
      exact Push.run_keeps ih _ _ h

/-- What an outlet's operations keep is kept while layers come and go. -/
theorem Outlet.Keeps.medium {p : Outlet σ → Prop} (hp : Outlet.Keeps p) :
    Medium.Keeps Encoder.State p where
  construct factory _ _ h := Push.run_keeps (EncoderStack.writer_keeps hp _) factory _ h
  finalize encoder state _ _ h :=
    Push.run_keeps (EncoderStack.writer_keeps hp _) (encoder.finalize state) _ h
  teardown encoder state _ _ h :=
    Push.run_keeps (EncoderStack.writer_keeps hp _) (encoder.teardown state) _ h

/-- Calls on a stack keep its shape. -/
theorem EncoderStack.writer_keeps_shape (depth : Nat) (shape : List (String × Encoder)) :
    (writer depth).Keeps fun world : EncoderStack depth × Outlet σ => world.1.shape = shape := by
  induction depth generalizing shape with
  | zero => exact ⟨fun _ _ h => h, fun _ h => h, fun _ _ h => h⟩
  | succ depth ih =>
    refine ⟨?_, ?_, fun _ _ h => h⟩
    · rintro ⟨⟨⟩, outlet⟩ bytes rfl
      rename_i name encoder state below
      have hb := Push.run_keeps (ih below.shape) (encoder.write state bytes) (below, outlet) rfl
      exact congrArg (· ++ [(name, encoder)]) hb
    · rintro ⟨⟨⟩, outlet⟩ rfl
      rename_i name encoder state below
      have hb := Push.run_keeps (ih below.shape) (encoder.flush state) (below, outlet) rfl
      exact congrArg (· ++ [(name, encoder)]) hb

instance : Medium.KeepsShape Encoder.State EncoderFactory (Outlet σ) where
  construct_shape factory stack outlet :=
    Push.run_keeps (EncoderStack.writer_keeps_shape _ stack.shape) factory (stack, outlet) rfl
  finalize_shape encoder state below outlet :=
    Push.run_keeps (EncoderStack.writer_keeps_shape _ below.shape) (encoder.finalize state)
      (below, outlet) rfl

variable {registry : EncoderRegistry} {names : List String} {chain : EncoderChain}

/-- Writing keeps the layers. -/
theorem Chain.Realizes.write (h : chain.Realizes (Outlet σ) registry names) (bytes : Bytes)
    (outlet : Outlet σ) :
    (EncoderChain.write bytes chain outlet).2.1.Realizes (Outlet σ) registry names := by
  obtain ⟨depth, stack, list⟩ := chain
  exact h.of_shape rfl
    ((EncoderStack.writer_keeps_shape depth stack.shape).write (stack, outlet) bytes rfl)

/-- Flushing keeps the layers. -/
theorem Chain.Realizes.flush (h : chain.Realizes (Outlet σ) registry names) (outlet : Outlet σ) :
    (EncoderChain.flush chain outlet).2.1.Realizes (Outlet σ) registry names := by
  obtain ⟨depth, stack, list⟩ := chain
  exact h.of_shape rfl
    ((EncoderStack.writer_keeps_shape depth stack.shape).flush (stack, outlet) rfl)

end Encoding

section Decoding

variable {σ : Type} [Source σ]

/-- Reading from a source keeps a property. -/
def Source.Keeps (p : σ → Prop) : Prop :=
  ∀ source room, p source → p (Source.read source room).2

/-- The operations of an inlet keep a property. -/
structure Inlet.Keeps (p : Inlet σ → Prop) : Prop where
  /-- Reading keeps it. -/
  read : ∀ inlet room, p inlet → p (inlet.read room).2
  /-- Adding a line keeps it. -/
  remark : ∀ (inlet : Inlet σ) text, p inlet → p (inlet.remark text)

/-- An inlet does nothing with its source but to read from it. -/
theorem Source.Keeps.inlet {p : σ → Prop} (hp : Source.Keeps p) :
    Inlet.Keeps fun inlet => p inlet.source := by
  refine ⟨fun inlet room h => ?_, fun _ _ h => h⟩
  have hr := hp inlet.source room h
  rw [Inlet.read]
  split <;> rename_i hc <;> rw [hc] at hr <;> exact hr

/-- What an inlet's operations keep is kept by a stack over it. -/
theorem DecoderStack.reader_keeps {p : Inlet σ → Prop} (hp : Inlet.Keeps p) (depth : Nat) :
    (reader depth).Keeps fun world : DecoderStack depth × Inlet σ => p world.2 := by
  induction depth with
  | zero =>
    exact ⟨fun world room h => hp.read world.2 room h, fun world text h => hp.remark world.2 text h⟩
  | succ depth ih =>
    refine ⟨?_, fun world text h => hp.remark world.2 text h⟩
    rintro ⟨⟨⟩, inlet⟩ room h
    exact Pull.run_keeps ih _ _ h

/-- What an inlet's operations keep is kept while layers come and go. -/
theorem Inlet.Keeps.medium {p : Inlet σ → Prop} (hp : Inlet.Keeps p) :
    Medium.Keeps Decoder.State p where
  construct factory _ _ h := Pull.run_keeps (DecoderStack.reader_keeps hp _) factory _ h
  finalize decoder state _ _ h :=
    Pull.run_keeps (DecoderStack.reader_keeps hp _) (decoder.finalize state) _ h
  teardown _ _ _ _ h := h

/-- Calls on a stack keep its shape. -/
theorem DecoderStack.reader_keeps_shape (depth : Nat) (shape : List (String × Decoder)) :
    (reader depth).Keeps fun world : DecoderStack depth × Inlet σ => world.1.shape = shape := by
  induction depth generalizing shape with
  | zero => exact ⟨fun _ _ h => h, fun _ _ h => h⟩
  | succ depth ih =>
    refine ⟨?_, fun _ _ h => h⟩
    rintro ⟨⟨⟩, inlet⟩ room rfl
    rename_i name decoder state below
    have hb := Pull.run_keeps (ih below.shape) (decoder.read state room) (below, inlet) rfl
    exact congrArg (· ++ [(name, decoder)]) hb

instance : Medium.KeepsShape Decoder.State DecoderFactory (Inlet σ) where
  construct_shape factory stack inlet :=
    Pull.run_keeps (DecoderStack.reader_keeps_shape _ stack.shape) factory (stack, inlet) rfl
  finalize_shape decoder state below inlet :=
    Pull.run_keeps (DecoderStack.reader_keeps_shape _ below.shape) (decoder.finalize state)
      (below, inlet) rfl

/-- Reading keeps the layers. -/
theorem Chain.Realizes.read {registry : DecoderRegistry} {names : List String}
    {chain : DecoderChain} (h : chain.Realizes (Inlet σ) registry names) (room : Nat)
    (inlet : Inlet σ) :
    (DecoderChain.read room chain inlet).2.1.Realizes (Inlet σ) registry names := by
  obtain ⟨depth, stack, list⟩ := chain
  exact h.of_shape rfl
    ((DecoderStack.reader_keeps_shape depth stack.shape).read (stack, inlet) room rfl)

end Decoding

namespace Compressor

variable {σ : Type} [Sink σ]

/-- A property of guard and outlet is kept by everything that a call can do to them. -/
structure Invariant (registry : EncoderRegistry) (order : List String)
    (p : InitGuard (EncoderStack 0) EncoderChain → Outlet σ → Prop) : Prop where
  /-- A building keeps it, whatever comes of that. -/
  init : ∀ guard outlet, p guard outlet →
    p (guard.initWith (construct registry order) outlet).2.1
      (guard.initWith (construct registry order) outlet).2.2
  /-- A write to the chain keeps it. -/
  write : ∀ chain outlet bytes, p ⟨.built, none, .built chain⟩ outlet →
    p ⟨.built, none, .built (EncoderChain.write bytes chain outlet).2.1⟩
      ((EncoderChain.write bytes chain outlet).2.2.credit
        (EncoderChain.write bytes chain outlet).1)
  /-- A flush of the chain keeps it. -/
  flush : ∀ chain outlet, p ⟨.built, none, .built chain⟩ outlet →
    p ⟨.built, none, .built (EncoderChain.flush chain outlet).2.1⟩
      (EncoderChain.flush chain outlet).2.2
  /-- Closing a guard that has no chain keeps it. -/
  close : ∀ guard outlet, guard.isBuilt = false → guard.close.1 = none → p guard outlet →
    p guard.close.2 outlet
  /-- Finalizing and destroying the chain keeps it. -/
  finish : ∀ chain outlet, p ⟨.built, none, .built chain⟩ outlet →
    p ⟨.closed, none, .closed⟩ ((chain.finalizeAll outlet).2.1.teardown
      { (chain.finalizeAll outlet).2.2 with attached := false })

variable {sink : σ} {registry : EncoderRegistry} {order : List String} {stage : Stage}
variable {compressor : Compressor σ}
variable {p : InitGuard (EncoderStack 0) EncoderChain → Outlet σ → Prop}

/-- An invariant is kept by initializing. -/
theorem Invariant.init_keeps (hp : Invariant registry order p)
    (h : At sink registry order stage compressor) (hk : p compressor.guard compressor.outlet) :
    p compressor.init.2.guard compressor.init.2.outlet := by
  obtain ⟨requested, factories, guard, outlet⟩ := compressor
  obtain ⟨rfl, rfl, -, -⟩ := h
  exact hp.init guard outlet hk

/-- An invariant is kept by finishing. -/
theorem Invariant.finish_keeps (hp : Invariant registry order p)
    (h : At sink registry order stage compressor) (hk : p compressor.guard compressor.outlet) :
    p compressor.finish.2.guard compressor.finish.2.outlet := by
  cases hs : stage.names? with
  | none =>
    have hn := h.guard.close_fst hs
    rw [finish_of_not_built hn]
    exact hp.close _ _ (h.guard.not_isBuilt hs) hn hk
  | some names =>
    cases stage with
    | built names =>
      obtain ⟨chain, hguard, -⟩ := h.guard
      rw [hguard] at hk
      rw [finish_of_built (by rw [hguard]), hguard]
      exact hp.finish chain _ hk
    | _ => cases hs

/-- An invariant is kept by every call. -/
theorem Invariant.call_keeps (hp : Invariant registry order p)
    (h : At sink registry order stage compressor) (hk : p compressor.guard compressor.outlet)
    (request : Call) :
    p (compressor.call request).2.guard (compressor.call request).2.outlet := by
  have hinit := hp.init_keeps h hk
  obtain ⟨hreply, hsettled⟩ := h.init
  cases request with
  | init => exact hinit
  | write bytes =>
    simp only [call, write_eq]
    rcases stage.rule_cases (prospect sink registry order) with
      ⟨names, hs, hserved⟩ | ⟨error, hrefused⟩ | hcrashed
    · rw [hserved] at hreply
      rw [hs] at hsettled
      obtain ⟨chain, hguard, -⟩ := hsettled.guard
      rw [hguard] at hinit
      simp only [hreply, Ruling.status, writeBuilt_of_built (by rw [hguard]), hguard]
      exact hp.write chain _ bytes hinit
    · simp only [hreply, hrefused, Ruling.status]
      exact hinit
    · simp only [hreply, hcrashed, Ruling.status]
      exact hinit
  | flush =>
    have hb := h.guard.isBuilt
    cases stage with
    | built names =>
      obtain ⟨chain, hguard, -⟩ := h.guard
      rw [hguard] at hk
      simp only [call, flush_of_built hb (by rw [hguard]), hguard]
      exact hp.flush chain _ hk
    | _ =>
      simp only [call, flush_of_not_built hb]
      exact hk
  | close =>
    simp only [call, close_eq]
    cases hu : compressor.guard.isUnbuilt with
    | false => exact hp.finish_keeps h hk
    | true =>
      simp only [if_true]
      cases hi : compressor.init.1 with
      | done value => exact hp.finish_keeps hsettled hinit
      | failed error =>
        have hnone := Stage.names?_settle_of_refused (hreply.symm.trans hi)
        exact hp.close _ _ (hsettled.guard.not_isBuilt hnone) (hsettled.guard.close_fst hnone) hinit
      | crashed => exact hinit
  | _ => exact hk

/-- An invariant that a new compressor has holds after every run. -/
theorem Invariant.run_keeps (hp : Invariant registry order p)
    (h : p (.start .bottom) { sink }) (calls : List Call) :
    p ((create sink registry order).run calls).guard
      ((create sink registry order).run calls).outlet := by
  have hrun := serve_induction
    (motive := fun _ current => (∃ stage, At sink registry order stage current) ∧
      p current.guard current.outlet)
    call (create sink registry order) ⟨⟨.fresh, at_create sink registry order⟩, h⟩
    (fun _ current request ⟨⟨_, hat⟩, hk⟩ =>
      ⟨⟨_, (hat.call request).2⟩, hp.call_keeps hat hk request⟩) calls
  exact hrun.2

/-- The chain that stands after constructing is the one that was built. -/
theorem build_of_construct {base : EncoderStack 0} {outlet : Outlet σ}
    {chain : EncoderChain} (h : (construct registry order base outlet).1 = .built chain) :
    (Chain.build registry order base outlet).1 = .built chain := by
  rw [construct] at h
  rcases hb : Chain.build registry order base outlet with ⟨built | error | _, after⟩ <;>
    rw [hb] at h <;> cases h
  rfl

/-- The layers are at all times those that the registry gives for the order. -/
theorem realizes_of_run (sink : σ) (registry : EncoderRegistry) (order : List String)
    (calls : List Call) :
    ((create sink registry order).run calls).guard.Holds
      (Chain.Realizes (Outlet σ) registry (order.filter (· != ""))) := by
  have hp : Invariant registry order fun guard (_ : Outlet σ) =>
      guard.Holds (Chain.Realizes (Outlet σ) registry (order.filter (· != ""))) := by
    refine ⟨?_, ?_, ?_, ?_, ?_⟩
    · intro guard outlet h
      exact h.initWith fun base chain hc => Chain.realizes_of_build (build_of_construct hc)
    · intro chain outlet bytes h other ho
      cases ho
      exact (h chain rfl).write bytes outlet
    · intro chain outlet h other ho
      cases ho
      exact (h chain rfl).flush outlet
    · exact fun guard _ _ _ _ => .close guard
    · exact fun _ _ _ _ hc => by cases hc
  exact hp.run_keeps (fun _ hc => by cases hc) calls

end Compressor

namespace Decompressor

variable {σ : Type} [Source σ]

/-- A property of guard and inlet is kept by everything that a call can do to them. -/
structure Invariant (registry : DecoderRegistry) (order : List String)
    (p : InitGuard (DecoderStack 0) DecoderChain → Inlet σ → Prop) : Prop where
  /-- A building keeps it, whatever comes of that. -/
  init : ∀ guard inlet, p guard inlet →
    p (guard.initWith (construct registry order) inlet).2.1
      (guard.initWith (construct registry order) inlet).2.2
  /-- A read from the chain keeps it. -/
  read : ∀ chain inlet room, p ⟨.built, none, .built chain⟩ inlet →
    p ⟨.built, none, .built (DecoderChain.read room chain inlet).2.1⟩
      ((DecoderChain.read room chain inlet).2.2.credit (DecoderChain.read room chain inlet).1)
  /-- Closing a guard that has no chain keeps it. -/
  close : ∀ guard inlet, guard.isBuilt = false → guard.close.1 = none → p guard inlet →
    p guard.close.2 inlet
  /-- Finalizing and destroying the chain keeps it. -/
  finish : ∀ chain inlet, p ⟨.built, none, .built chain⟩ inlet →
    p ⟨.closed, none, .closed⟩
      ((chain.finalizeAll inlet).2.1.teardown (chain.finalizeAll inlet).2.2)

variable {source : σ} {registry : DecoderRegistry} {order : List String} {stage : Stage}
variable {decompressor : Decompressor σ}
variable {p : InitGuard (DecoderStack 0) DecoderChain → Inlet σ → Prop}

/-- An invariant is kept by initializing. -/
theorem Invariant.init_keeps (hp : Invariant registry order p)
    (h : At source registry order stage decompressor)
    (hk : p decompressor.guard decompressor.inlet) :
    p decompressor.init.2.guard decompressor.init.2.inlet := by
  obtain ⟨requested, factories, guard, inlet⟩ := decompressor
  obtain ⟨rfl, rfl, -, -⟩ := h
  exact hp.init guard inlet hk

/-- An invariant is kept by every call. -/
theorem Invariant.call_keeps (hp : Invariant registry order p)
    (h : At source registry order stage decompressor)
    (hk : p decompressor.guard decompressor.inlet) (request : Call) :
    p (decompressor.call request).2.guard (decompressor.call request).2.inlet := by
  have hinit := hp.init_keeps h hk
  obtain ⟨hreply, hsettled⟩ := h.init
  cases request with
  | init => exact hinit
  | read room =>
    simp only [call, read_eq]
    rcases stage.rule_cases (prospect source registry order) with
      ⟨names, hs, hserved⟩ | ⟨error, hrefused⟩ | hcrashed
    · rw [hserved] at hreply
      rw [hs] at hsettled
      obtain ⟨chain, hguard, -⟩ := hsettled.guard
      rw [hguard] at hinit
      simp only [hreply, Ruling.status, readBuilt_of_built (by rw [hguard]), hguard]
      exact hp.read chain _ room hinit
    · simp only [hreply, hrefused, Ruling.status]
      exact hinit
    · simp only [hreply, hcrashed, Ruling.status]
      exact hinit
  | close =>
    cases hs : stage.names? with
    | none =>
      have hn := h.guard.close_fst hs
      simp only [call, close_of_not_built hn]
      exact hp.close _ _ (h.guard.not_isBuilt hs) hn hk
    | some names =>
      cases stage with
      | built names =>
        obtain ⟨chain, hguard, -⟩ := h.guard
        rw [hguard] at hk
        simp only [call, close_of_built (by rw [hguard]), hguard]
        exact hp.finish chain _ hk
      | _ => cases hs
  | _ => exact hk

/-- An invariant that a new decompressor has holds after every run. -/
theorem Invariant.run_keeps (hp : Invariant registry order p)
    (h : p (.start .bottom) { source }) (calls : List Call) :
    p ((create source registry order).run calls).guard
      ((create source registry order).run calls).inlet := by
  have hrun := serve_induction
    (motive := fun _ current => (∃ stage, At source registry order stage current) ∧
      p current.guard current.inlet)
    call (create source registry order) ⟨⟨.fresh, at_create source registry order⟩, h⟩
    (fun _ current request ⟨⟨_, hat⟩, hk⟩ =>
      ⟨⟨_, (hat.call request).2⟩, hp.call_keeps hat hk request⟩) calls
  exact hrun.2

/-- The chain that stands after constructing is the one that was built. -/
theorem build_of_construct {base : DecoderStack 0} {inlet : Inlet σ} {chain : DecoderChain}
    (h : (construct registry order base inlet).1 = .built chain) :
    (Chain.build registry order base inlet).1 = .built chain := by
  rw [construct] at h
  rcases hb : Chain.build registry order base inlet with ⟨built | error | _, after⟩ <;>
    rw [hb] at h <;> cases h
  rfl

/-- The layers are at all times those that the registry gives for the order. -/
theorem realizes_of_run (source : σ) (registry : DecoderRegistry) (order : List String)
    (calls : List Call) :
    ((create source registry order).run calls).guard.Holds
      (Chain.Realizes (Inlet σ) registry (order.filter (· != ""))) := by
  have hp : Invariant registry order fun guard (_ : Inlet σ) =>
      guard.Holds (Chain.Realizes (Inlet σ) registry (order.filter (· != ""))) := by
    refine ⟨?_, ?_, ?_, ?_⟩
    · intro guard inlet h
      exact h.initWith fun base chain hc => Chain.realizes_of_build (build_of_construct hc)
    · intro chain inlet room h other ho
      cases ho
      exact (h chain rfl).read room inlet
    · exact fun guard _ _ _ _ => .close guard
    · exact fun _ _ _ _ hc => by cases hc
  exact hp.run_keeps (fun _ hc => by cases hc) calls

end Decompressor

end ContentCoding
