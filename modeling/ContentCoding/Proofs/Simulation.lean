import ContentCoding.Proofs.Calls

/-!
# A pipeline sees its stream through calls alone

A map from one kind of sink to another that agrees with their writes and flushes
carries a whole compressor along: every call is answered alike, and the two
compressors stay each other's image. The same goes for sources. So a stream may
be given a memory of what was done with it, and what is proved of a pipeline over
the stream with the memory is true of the pipeline over the stream itself.

The maps go through the layers by one lemma for each thing that can be done: an
exchange, making and destroying layers, the walk of a close, each call.
-/

namespace ContentCoding

universe u v w x y

/-- A map of worlds under which two writers answer alike. -/
structure Writer.Maps {V : Type u} {W : Type v} (f : V → W) (first : Writer V)
    (second : Writer W) : Prop where
  /-- Writes are answered alike. -/
  write : ∀ world bytes, second.write (f world) bytes = Prod.map id f (first.write world bytes)
  /-- Flushes are answered alike. -/
  flush : ∀ world, second.flush (f world) = Prod.map id f (first.flush world)
  /-- Lines are added alike. -/
  remark : ∀ world text, second.remark (f world) text = f (first.remark world text)

/-- A map of worlds under which two readers answer alike. -/
structure Reader.Maps {V : Type u} {W : Type v} (f : V → W) (first : Reader V)
    (second : Reader W) : Prop where
  /-- Reads are answered alike. -/
  read : ∀ world room, second.read (f world) room = Prod.map id f (first.read world room)
  /-- Lines are added alike. -/
  remark : ∀ world text, second.remark (f world) text = f (first.remark world text)

/-- An exchange has the same result against writers that answer alike. -/
theorem Push.run_map {V : Type u} {W : Type v} {f : V → W} {first : Writer V} {second : Writer W}
    (hf : Writer.Maps f first second) {α : Type w} (push : Push α) (world : V) :
    push.run second (f world) = Prod.map id f (push.run first world) := by
  induction push generalizing world with
  | done result => rfl
  | write bytes next ih =>
    rw [Push.run, Push.run, hf.write]
    exact ih _ _
  | flush next ih =>
    rw [Push.run, Push.run, hf.flush]
    exact ih _ _
  | remark text next ih =>
    rw [Push.run, Push.run, hf.remark]
    exact ih _

/-- An exchange has the same result against readers that answer alike. -/
theorem Pull.run_map {V : Type u} {W : Type v} {f : V → W} {first : Reader V} {second : Reader W}
    (hf : Reader.Maps f first second) {α : Type w} (pull : Pull α) (world : V) :
    pull.run second (f world) = Prod.map id f (pull.run first world) := by
  induction pull generalizing world with
  | done result => rfl
  | read room next ih =>
    rw [Pull.run, Pull.run, hf.read]
    exact ih _ _
  | remark text next ih =>
    rw [Pull.run, Pull.run, hf.remark]
    exact ih _

section Layers

variable {K : Type 1} {S : K → Type} {F : Type 1} {P Q : Type} [Medium S F P] [Medium S F Q]

variable (S) in
/-- A map of ports under which layers are made, finalized and destroyed alike. -/
structure Medium.Maps (f : P → Q) : Prop where
  /-- Making a layer comes to the same. -/
  construct : ∀ {depth : Nat} (factory : F) (stack : Stack S depth) (port : P),
    Medium.construct factory stack (f port) =
      Prod.map id (Prod.map id f) (Medium.construct factory stack port)
  /-- So does finalizing one. -/
  finalize : ∀ {depth : Nat} (kind : K) (state : S kind) (below : Stack S depth) (port : P),
    Medium.finalize kind state below (f port) =
      Prod.map id (Prod.map id f) (Medium.finalize kind state below port)
  /-- So does destroying one. -/
  teardown : ∀ {depth : Nat} (kind : K) (state : S kind) (below : Stack S depth) (port : P),
    Medium.teardown kind state below (f port) =
      Prod.map id f (Medium.teardown kind state below port)

variable {f : P → Q}

/-- Destroying a stack comes to the same over ports that answer alike. -/
theorem Stack.teardown_map (hf : Medium.Maps S f) {depth : Nat} (stack : Stack S depth)
    (port : P) : stack.teardown (f port) = f (stack.teardown port) := by
  -- The layers below change as well, so the induction is on the depth alone.
  induction depth generalizing port with
  | zero => cases stack; rfl
  | succ depth ih =>
    cases stack with
    | layer name kind state below =>
      rw [teardown, teardown, hf.teardown]
      exact ih _ _

/-- Realizing names comes to the same over ports that answer alike. -/
theorem Chain.realize_map (hf : Medium.Maps S f) (registry : Registry F) (names : List String)
    (chain : Chain S) (port : P) :
    realize registry names chain (f port) =
      Prod.map id f (realize registry names chain port) := by
  induction names generalizing chain port with
  | nil => rfl
  | cons name rest ih =>
    obtain ⟨depth, stack, list⟩ := chain
    rw [realize, realize]
    cases registry.lookup list.length name with
    | error error => exact congrArg (Prod.mk _) (stack.teardown_map hf port)
    | ok factory =>
      dsimp only
      rw [hf.construct]
      rcases Medium.construct factory stack port with ⟨_ | _ | _, below, after⟩
      · exact ih _ _
      · exact congrArg (Prod.mk _) (below.teardown_map hf after)
      · exact congrArg (Prod.mk _) (below.teardown_map hf after)

variable [LayerKind S]

/-- The walk of a close comes to the same over ports that answer alike. -/
theorem Stack.finalizeAlong_map (hf : Medium.Maps S f) (names : List (String × Nat)) {depth : Nat}
    (stack : Stack S depth) (port : P) :
    stack.finalizeAlong names (f port) =
      Prod.map id (Prod.map id f) (stack.finalizeAlong names port) := by
  induction names generalizing depth port with
  | nil => rfl
  | cons entry names ih =>
    cases stack with
    | bottom => rfl
    | layer label kind state below =>
      obtain ⟨name, index⟩ := entry
      have htop : (if LayerKind.finalizes kind state then Medium.finalize kind state below (f port)
            else ((.ok (), state), below, f port)) =
          Prod.map id (Prod.map id f)
            (if LayerKind.finalizes kind state then Medium.finalize kind state below port
              else ((.ok (), state), below, port)) := by
        split
        · exact hf.finalize kind state below port
        · rfl
      rw [finalizeAlong, finalizeAlong, htop]
      rcases (if LayerKind.finalizes kind state then Medium.finalize kind state below port
        else ((.ok (), state), below, port)) with ⟨⟨_ | _, left⟩, under, after⟩
      · rfl
      · dsimp only [Prod.map, id]
        split
        · rw [ih]
          rfl
        · rfl

/-- Finalizing a chain comes to the same over ports that answer alike. -/
theorem Chain.finalizeAll_map (hf : Medium.Maps S f) (chain : Chain S) (port : P) :
    chain.finalizeAll (f port) = Prod.map id (Prod.map id f) (chain.finalizeAll port) := by
  obtain ⟨depth, stack, names⟩ := chain
  rw [finalizeAll, finalizeAll, Stack.finalizeAlong_map hf]
  rfl

end Layers

section Serving

variable {X : Type u} {Y : Type v} {C : Type w} {R : Type x} {f : X → Y}

/-- Things that answer alike give the same replies to all requests and stay each other's
image. -/
theorem serve_map {first : X → C → R × X} {second : Y → C → R × Y}
    (hf : ∀ current request, second (f current) request = Prod.map id f (first current request))
    (start : X) (requests : List C) :
    serve second (f start) requests = f (serve first start requests) ∧
      replies second (f start) requests = replies first start requests := by
  induction requests generalizing start with
  | nil => exact ⟨rfl, rfl⟩
  | cons request rest ih =>
    have hstep := hf start request
    obtain ⟨hserve, hreplies⟩ := ih (first start request).2
    simp only [serve, replies, List.foldl_cons, hstep, Prod.map, id] at hserve hreplies ⊢
    exact ⟨hserve, congrArg _ hreplies⟩

end Serving

section Guards

variable {S : Type u} {T : Type v} {V : Type w} {W : Type x} {f : V → W}

/-- A guard is initialized alike in worlds in which building comes to the same. -/
theorem InitGuard.initWith_map {build : S → V → Building T × V} {other : S → W → Building T × W}
    (hf : ∀ base world, other base (f world) = Prod.map id f (build base world))
    (guard : InitGuard S T) (world : V) :
    guard.initWith other (f world) = Prod.map id (Prod.map id f) (guard.initWith build world) := by
  obtain ⟨phase, failure, state⟩ := guard
  cases phase with
  | unbuilt =>
    cases state with
    | unbuilt base =>
      simp only [initWith, settled, hf]
      rcases build base world with ⟨_ | _ | _, after⟩ <;> rfl
    | _ => rfl
  | _ => rfl

/-- A guard's chain is used alike in worlds in which its use comes to the same. -/
theorem InitGuard.useBuilt_map {R : Type} {use : T → V → R × T × V} {other : T → W → R × T × W}
    (hf : ∀ chain world, other chain (f world) = Prod.map id (Prod.map id f) (use chain world))
    (guard : InitGuard S T) (world : V) :
    guard.useBuilt other (f world) = Prod.map id (Prod.map id f) (guard.useBuilt use world) := by
  obtain ⟨phase, failure, state⟩ := guard
  cases state with
  | built chain =>
    rw [useBuilt, useBuilt, hf]
    rfl
  | _ => rfl

end Guards

section Encoding

variable {σ τ : Type} [Sink σ] [Sink τ] {f : σ → τ}

/-- A map of sinks under which calls are answered alike. -/
structure Sink.Maps (f : σ → τ) : Prop where
  /-- Writes are answered alike. -/
  write : ∀ sink bytes, Sink.write (f sink) bytes = Prod.map id f (Sink.write sink bytes)
  /-- Flushes are answered alike. -/
  flush : ∀ sink, Sink.flush (f sink) = Prod.map id f (Sink.flush sink)

/-- The outlet with another sink. -/
def Outlet.map (f : σ → τ) (outlet : Outlet σ) : Outlet τ := { outlet with sink := f outlet.sink }

/-- A stack answers alike over sinks that answer alike. -/
theorem EncoderStack.writer_maps (hf : Sink.Maps f) (depth : Nat) :
    Writer.Maps (Prod.map id (Outlet.map f)) (@writer σ _ depth) (@writer τ _ depth) := by
  induction depth with
  | zero =>
    refine ⟨?_, ?_, fun _ _ => rfl⟩
    · rintro ⟨stack, sink, attached, counters, journal⟩ bytes
      cases attached with
      | false => rfl
      | true =>
        simp only [writer, Prod.map, id, Outlet.map, Outlet.write, if_true, hf.write]
        rcases Sink.write sink bytes with ⟨_ | _, after⟩ <;> rfl
    · rintro ⟨stack, sink, attached, counters, journal⟩
      cases attached with
      | false => rfl
      | true =>
        simp only [writer, Prod.map, id, Outlet.map, Outlet.flush, if_true, hf.flush]
  | succ depth ih =>
    refine ⟨?_, ?_, fun _ _ => rfl⟩
    · rintro ⟨⟨⟩, outlet⟩ bytes
      rename_i name encoder state below
      have hbelow := Push.run_map ih (encoder.write state bytes) (below, outlet)
      simp only [writer, Prod.map, id] at hbelow ⊢
      rw [hbelow]
    · rintro ⟨⟨⟩, outlet⟩
      rename_i name encoder state below
      have hbelow := Push.run_map ih (encoder.flush state) (below, outlet)
      simp only [writer, Prod.map, id] at hbelow ⊢
      rw [hbelow]

/-- Layers are made, finalized and destroyed alike over sinks that answer alike. -/
theorem Sink.Maps.medium (hf : Sink.Maps f) : Medium.Maps Encoder.State (Outlet.map f) where
  construct factory stack outlet :=
    Push.run_map (EncoderStack.writer_maps hf _) factory (stack, outlet)
  finalize encoder state below outlet :=
    Push.run_map (EncoderStack.writer_maps hf _) (encoder.finalize state) (below, outlet)
  teardown encoder state below outlet :=
    congrArg Prod.snd
      (Push.run_map (EncoderStack.writer_maps hf _) (encoder.teardown state) (below, outlet))

namespace Compressor

/-- The compressor over another sink. -/
def map (f : σ → τ) (compressor : Compressor σ) : Compressor τ :=
  { compressor with outlet := compressor.outlet.map f }

/-- A chain is constructed alike over sinks that answer alike. -/
theorem construct_map (hf : Sink.Maps f) (registry : EncoderRegistry) (order : List String)
    (base : EncoderStack 0) (outlet : Outlet σ) :
    construct registry order base (outlet.map f) =
      Prod.map id (Outlet.map f) (construct registry order base outlet) := by
  rw [construct, construct, Chain.build, Chain.realize_map hf.medium, Chain.build]
  rcases Chain.realize registry (order.filter (· != "")) ⟨0, base, []⟩ outlet with
    ⟨_ | _ | _, after⟩ <;> rfl

/-- Initializing comes to the same over sinks that answer alike. -/
theorem init_map (hf : Sink.Maps f) (compressor : Compressor σ) :
    (compressor.map f).init = Prod.map id (map f) compressor.init := by
  obtain ⟨order, registry, guard, outlet⟩ := compressor
  simp only [map, init, guard.initWith_map (construct_map hf registry order) outlet]
  rfl

/-- A write to the chain comes to the same over sinks that answer alike. -/
theorem writeBuilt_map (hf : Sink.Maps f) (compressor : Compressor σ) (bytes : Bytes) :
    (compressor.map f).writeBuilt bytes = Prod.map id (map f) (compressor.writeBuilt bytes) := by
  obtain ⟨order, registry, guard, outlet⟩ := compressor
  have hwrite : ∀ (chain : EncoderChain) (outlet : Outlet σ),
      EncoderChain.write bytes chain (outlet.map f) =
        Prod.map id (Prod.map id (Outlet.map f)) (EncoderChain.write bytes chain outlet) := by
    rintro ⟨depth, stack, names⟩ outlet
    have hstack := (EncoderStack.writer_maps hf depth).write (stack, outlet) bytes
    simp only [Prod.map, id] at hstack
    simp only [EncoderChain.write, hstack, Prod.map, id]
  simp only [map, writeBuilt, guard.useBuilt_map hwrite outlet]
  rcases guard.useBuilt (EncoderChain.write bytes) outlet with ⟨_ | answer, kept, left⟩
  · rfl
  · cases answer <;> rfl

/-- A write comes to the same over sinks that answer alike. -/
theorem write_map (hf : Sink.Maps f) (compressor : Compressor σ) (bytes : Bytes) :
    (compressor.map f).write bytes = Prod.map id (map f) (compressor.write bytes) := by
  rw [write, write, init_map hf]
  rcases compressor.init with ⟨_ | _ | _, settled⟩
  · simp only [Prod.map, id, writeBuilt_map hf]
  · rfl
  · rfl

/-- A flush comes to the same over sinks that answer alike. -/
theorem flush_map (hf : Sink.Maps f) (compressor : Compressor σ) :
    (compressor.map f).flush = Prod.map id (map f) compressor.flush := by
  obtain ⟨order, registry, guard, outlet⟩ := compressor
  have hflush : ∀ (chain : EncoderChain) (outlet : Outlet σ),
      EncoderChain.flush chain (outlet.map f) =
        Prod.map id (Prod.map id (Outlet.map f)) (EncoderChain.flush chain outlet) := by
    rintro ⟨depth, stack, names⟩ outlet
    have hstack := (EncoderStack.writer_maps hf depth).flush (stack, outlet)
    simp only [Prod.map, id] at hstack
    simp only [EncoderChain.flush, hstack, Prod.map, id]
  simp only [map, flush, guard.useBuilt_map hflush outlet]
  split
  · rcases guard.useBuilt EncoderChain.flush outlet with ⟨_ | answer, kept, left⟩ <;> rfl
  · rfl

/-- Finishing comes to the same over sinks that answer alike. -/
theorem finish_map (hf : Sink.Maps f) (compressor : Compressor σ) :
    (compressor.map f).finish = Prod.map id (map f) compressor.finish := by
  obtain ⟨order, registry, guard, outlet⟩ := compressor
  simp only [map, finish]
  rcases guard.close with ⟨_ | chain, closed⟩
  · rfl
  · simp only [chain.finalizeAll_map hf.medium outlet]
    rcases chain.finalizeAll outlet with ⟨result, left, after⟩
    have hdown := left.stack.teardown_map hf.medium { after with attached := false }
    simp only [Prod.map, id]
    exact congrArg (fun outlet => (result, (⟨order, registry, closed, outlet⟩ : Compressor τ))) hdown

/-- A close comes to the same over sinks that answer alike. -/
theorem close_map (hf : Sink.Maps f) (compressor : Compressor σ) :
    (compressor.map f).close = Prod.map id (map f) compressor.close := by
  have hsettle : (if (compressor.map f).guard.isUnbuilt then (compressor.map f).init
        else (.done (), compressor.map f)) =
      Prod.map id (map f)
        (if compressor.guard.isUnbuilt then compressor.init else (.done (), compressor)) := by
    rw [show (compressor.map f).guard = compressor.guard from rfl]
    split
    · exact init_map hf compressor
    · rfl
  rw [close, close, hsettle]
  rcases (if compressor.guard.isUnbuilt then compressor.init else (.done (), compressor)) with
    ⟨_ | _ | _, settled⟩
  · simp only [Prod.map, id, finish_map hf]
  · rfl
  · rfl

/-- Every call is answered alike over sinks that answer alike. -/
theorem call_map (hf : Sink.Maps f) (compressor : Compressor σ) (request : Call) :
    (compressor.map f).call request = Prod.map id (map f) (compressor.call request) := by
  cases request with
  | init => simp only [call, init_map hf, Prod.map, id]
  | write bytes => simp only [call, write_map hf, Prod.map, id]
  | flush => simp only [call, flush_map hf, Prod.map, id]
  | close => simp only [call, close_map hf, Prod.map, id]
  | _ => rfl

/-- A run of calls comes to the same over sinks that answer alike. -/
theorem run_map (hf : Sink.Maps f) (compressor : Compressor σ) (calls : List Call) :
    (compressor.map f).run calls = (compressor.run calls).map f ∧
      replies call (compressor.map f) calls = replies call compressor calls :=
  serve_map (call_map hf) compressor calls

end Compressor

end Encoding

section Decoding

variable {σ τ : Type} [Source σ] [Source τ] {f : σ → τ}

/-- A map of sources under which reads are answered alike. -/
def Source.Maps (f : σ → τ) : Prop :=
  ∀ source room, Source.read (f source) room = Prod.map id f (Source.read source room)

/-- The inlet with another source. -/
def Inlet.map (f : σ → τ) (inlet : Inlet σ) : Inlet τ := { inlet with source := f inlet.source }

/-- A stack answers alike over sources that answer alike. -/
theorem DecoderStack.reader_maps (hf : Source.Maps f) (depth : Nat) :
    Reader.Maps (Prod.map id (Inlet.map f)) (@reader σ _ depth) (@reader τ _ depth) := by
  induction depth with
  | zero =>
    refine ⟨?_, fun _ _ => rfl⟩
    rintro ⟨stack, source, counters, journal⟩ room
    simp only [reader, Prod.map, id, Inlet.map, Inlet.read, hf source room]
    rcases Source.read source room with ⟨_ | _, after⟩ <;> rfl
  | succ depth ih =>
    refine ⟨?_, fun _ _ => rfl⟩
    rintro ⟨⟨⟩, inlet⟩ room
    rename_i name decoder state below
    have hbelow := Pull.run_map ih (decoder.read state room) (below, inlet)
    simp only [reader, Prod.map, id] at hbelow ⊢
    rw [hbelow]

/-- Layers are made, finalized and destroyed alike over sources that answer alike. -/
theorem Source.Maps.medium (hf : Source.Maps f) : Medium.Maps Decoder.State (Inlet.map f) where
  construct factory stack inlet :=
    Pull.run_map (DecoderStack.reader_maps hf _) factory (stack, inlet)
  finalize decoder state below inlet :=
    Pull.run_map (DecoderStack.reader_maps hf _) (decoder.finalize state) (below, inlet)
  teardown _ _ _ _ := rfl

namespace Decompressor

/-- The decompressor over another source. -/
def map (f : σ → τ) (decompressor : Decompressor σ) : Decompressor τ :=
  { decompressor with inlet := decompressor.inlet.map f }

/-- A chain is constructed alike over sources that answer alike. -/
theorem construct_map (hf : Source.Maps f) (registry : DecoderRegistry) (order : List String)
    (base : DecoderStack 0) (inlet : Inlet σ) :
    construct registry order base (inlet.map f) =
      Prod.map id (Inlet.map f) (construct registry order base inlet) := by
  rw [construct, construct, Chain.build, Chain.realize_map hf.medium, Chain.build]
  rcases Chain.realize registry (order.filter (· != "")) ⟨0, base, []⟩ inlet with
    ⟨_ | _ | _, after⟩ <;> rfl

/-- Initializing comes to the same over sources that answer alike. -/
theorem init_map (hf : Source.Maps f) (decompressor : Decompressor σ) :
    (decompressor.map f).init = Prod.map id (map f) decompressor.init := by
  obtain ⟨order, registry, guard, inlet⟩ := decompressor
  simp only [map, init, guard.initWith_map (construct_map hf registry order) inlet]
  rfl

/-- A read from the chain comes to the same over sources that answer alike. -/
theorem readBuilt_map (hf : Source.Maps f) (decompressor : Decompressor σ) (room : Nat) :
    (decompressor.map f).readBuilt room = Prod.map id (map f) (decompressor.readBuilt room) := by
  obtain ⟨order, registry, guard, inlet⟩ := decompressor
  have hread : ∀ (chain : DecoderChain) (inlet : Inlet σ),
      DecoderChain.read room chain (inlet.map f) =
        Prod.map id (Prod.map id (Inlet.map f)) (DecoderChain.read room chain inlet) := by
    rintro ⟨depth, stack, names⟩ inlet
    have hstack := (DecoderStack.reader_maps hf depth).read (stack, inlet) room
    simp only [Prod.map, id] at hstack
    simp only [DecoderChain.read, hstack, Prod.map, id]
  simp only [map, readBuilt, guard.useBuilt_map hread inlet]
  rcases guard.useBuilt (DecoderChain.read room) inlet with ⟨_ | answer, kept, left⟩
  · rfl
  · cases answer <;> rfl

/-- A read comes to the same over sources that answer alike. -/
theorem read_map (hf : Source.Maps f) (decompressor : Decompressor σ) (room : Nat) :
    (decompressor.map f).read room = Prod.map id (map f) (decompressor.read room) := by
  rw [read, read, init_map hf]
  rcases decompressor.init with ⟨_ | _ | _, settled⟩
  · simp only [Prod.map, id, readBuilt_map hf]
  · rfl
  · rfl

/-- A close comes to the same over sources that answer alike. -/
theorem close_map (hf : Source.Maps f) (decompressor : Decompressor σ) :
    (decompressor.map f).close = Prod.map id (map f) decompressor.close := by
  obtain ⟨order, registry, guard, inlet⟩ := decompressor
  simp only [map, close]
  rcases guard.close with ⟨_ | chain, closed⟩
  · rfl
  · simp only [chain.finalizeAll_map hf.medium inlet]
    rcases chain.finalizeAll inlet with ⟨result, left, after⟩
    have hdown := left.stack.teardown_map hf.medium after
    simp only [Prod.map, id]
    exact congrArg (fun inlet => (result, (⟨order, registry, closed, inlet⟩ : Decompressor τ))) hdown

/-- Every call is answered alike over sources that answer alike. -/
theorem call_map (hf : Source.Maps f) (decompressor : Decompressor σ) (request : Call) :
    (decompressor.map f).call request = Prod.map id (map f) (decompressor.call request) := by
  cases request with
  | init => simp only [call, init_map hf, Prod.map, id]
  | read room => simp only [call, read_map hf, Prod.map, id]
  | close => simp only [call, close_map hf, Prod.map, id]
  | _ => rfl

/-- A run of calls comes to the same over sources that answer alike. -/
theorem run_map (hf : Source.Maps f) (decompressor : Decompressor σ) (calls : List Call) :
    (decompressor.map f).run calls = (decompressor.run calls).map f ∧
      replies call (decompressor.map f) calls = replies call decompressor calls :=
  serve_map (call_map hf) decompressor calls

end Decompressor

end Decoding

end ContentCoding
