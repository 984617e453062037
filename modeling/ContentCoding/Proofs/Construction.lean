import ContentCoding.Proofs.Lifecycle
import ContentCoding.Scripted.Layers

/-!
# How chains are constructed

Constructing a chain invokes factories. An invocation has the chain that was built so far and the
port, and leads to the next chain if its factory makes a layer. So a construction is a sequence of
invocations, each on what the one before has led to, and how it ends: with all names realized, at a
name that is not registered, or at a factory that reports a fault or breaks off.

The main statement is that the initialization of either pipeline is such a construction over the
names of its order that are not blank. What it answers, and the layers that are counted and named
afterwards, are read off it. Since blank names are never looked at, pipelines whose orders differ in
blank names alone reply alike to all calls.
-/

namespace ContentCoding

universe u

section Invocations

variable {K : Type 1} {S : K → Type} {F : Type 1} {P : Type}

/-- A factory that is invoked under a name, on a chain and a port. -/
structure Invocation (S : K → Type) (F : Type 1) (P : Type) : Type 1 where
  /-- The name. -/
  name : String
  /-- What the name stands for. -/
  factory : F
  /-- The chain built so far. -/
  chain : Chain S
  /-- The port by then. -/
  port : P

variable [Medium S F P]

/-- The chain with the layer that the factory makes, and the port behind that. -/
def Invocation.next? : Invocation S F P → Option (Chain S × P)
  | ⟨name, factory, ⟨depth, stack, names⟩, port⟩ =>
    match Medium.construct factory stack port with
    | (.built kind state, below, port) =>
      some (⟨depth + 1, .layer name kind state below, names ++ [name]⟩, port)
    | _ => none

/-- Registered factories are invoked one after another, each on what the one before has led to, and
all of them make their layers. -/
inductive Leads (registry : Registry F) :
    Chain S × P → List (Invocation S F P) → Chain S × P → Prop
  /-- Nothing is invoked. -/
  | none (start : Chain S × P) : Leads registry start [] start
  /-- A first factory is invoked before the others. -/
  | step {name : String} {factory : F} {start next finish : Chain S × P}
      {later : List (Invocation S F P)} (registered : registry.get? name = some factory)
      (makes : Invocation.next? ⟨name, factory, start.1, start.2⟩ = some next)
      (goesOn : Leads registry next later finish) :
      Leads registry start (⟨name, factory, start.1, start.2⟩ :: later) finish

/-- The names of a chain are those of the invocations that have led to it. -/
theorem Leads.names_eq {registry : Registry F} {start finish : Chain S × P}
    {done : List (Invocation S F P)} (h : Leads registry start done finish) :
    finish.1.names = start.1.names ++ done.map Invocation.name := by
  induction h with
  | none start => simp
  | @step name factory start next finish later registered makes goesOn ih =>
    have hnext : next.1.names = start.1.names ++ [name] := by
      simp only [Invocation.next?] at makes
      split at makes
      · simp only [Option.some.injEq] at makes
        simp [← makes]
      · cases makes
    simp [ih, hnext]

/-- A construction from an empty chain: the invocations that have made layers, and how it ends. The
index in an error is the number of these layers. -/
inductive Constructs (registry : Registry F) (names : List String) (start : P)
    (done : List (Invocation S F P)) : Building (Chain S) → P → Prop
  /-- All names have been realized. -/
  | built {chain : Chain S} {port : P}
      (leads : Leads registry (⟨0, .bottom, []⟩, start) done (chain, port))
      (all : names = done.map Invocation.name) :
      Constructs registry names start done (.built chain) port
  /-- A name is not registered, and the layers are destroyed. -/
  | unknown {chain : Chain S} {port : P} {name : String} {rest : List String}
      (leads : Leads registry (⟨0, .bottom, []⟩, start) done (chain, port))
      (split : names = done.map Invocation.name ++ name :: rest)
      (unregistered : registry.get? name = none) :
      Constructs registry names start done (.failed (.unsupported done.length name))
        (chain.stack.teardown port)
  /-- A factory reports a fault, and the layers below are destroyed. -/
  | refused {chain : Chain S} {port left : P} {name : String} {rest : List String} {factory : F}
      {fault : Fault} {below : Stack S chain.depth}
      (leads : Leads registry (⟨0, .bottom, []⟩, start) done (chain, port))
      (split : names = done.map Invocation.name ++ name :: rest)
      (registered : registry.get? name = some factory)
      (refuses : Medium.construct factory chain.stack port = (.refused fault, below, left)) :
      Constructs registry names start done (.failed (.construction done.length name fault))
        (below.teardown left)
  /-- A factory breaks off, and the layers below are destroyed. -/
  | crashed {chain : Chain S} {port left : P} {name : String} {rest : List String} {factory : F}
      {below : Stack S chain.depth}
      (leads : Leads registry (⟨0, .bottom, []⟩, start) done (chain, port))
      (split : names = done.map Invocation.name ++ name :: rest)
      (registered : registry.get? name = some factory)
      (breaksOff : Medium.construct factory chain.stack port = (.crashed, below, left)) :
      Constructs registry names start done .crashed (below.teardown left)

/-- No factory of the registry breaks off, whatever chain and port it is invoked on. -/
def Answering (registry : Registry F) : Prop :=
  ∀ name factory, registry.get? name = some factory →
    ∀ (chain : Chain S) (port : P), (Medium.construct factory chain.stack port).1 ≠ .crashed

variable {registry : Registry F}

/-- A factory that makes its layer is followed by the names behind it. -/
theorem Chain.realize_next {name : String} {factory : F} {start next : Chain S × P}
    (registered : registry.get? name = some factory)
    (makes : Invocation.next? ⟨name, factory, start.1, start.2⟩ = some next) (rest : List String) :
    realize registry (name :: rest) start.1 start.2 = realize registry rest next.1 next.2 := by
  obtain ⟨⟨depth, stack, names⟩, port⟩ := start
  simp only [Invocation.next?] at makes
  simp only [realize, Registry.lookup, registered]
  split at makes
  · rename_i made
    simp only [Option.some.injEq] at makes
    simp only [made, ← makes]
  · cases makes

/-- Invocations that all make their layers are followed by the names behind them. -/
theorem Leads.realize {start finish : Chain S × P} {done : List (Invocation S F P)}
    (h : Leads registry start done finish) (rest : List String) :
    Chain.realize registry (done.map Invocation.name ++ rest) start.1 start.2 =
      Chain.realize registry rest finish.1 finish.2 := by
  induction h with
  | none start => rfl
  | step registered makes goesOn ih =>
    rw [List.map_cons, List.cons_append, Chain.realize_next registered makes]
    exact ih

/-- Names are realized up to some point, behind which there is no name, one that is not registered,
or one whose factory makes no layer. -/
theorem exists_leads (registry : Registry F) (names : List String) (start : Chain S × P) :
    ∃ (done : List (Invocation S F P)) (finish : Chain S × P) (rest : List String),
      Leads registry start done finish ∧ names = done.map Invocation.name ++ rest ∧
      ∀ name later, rest = name :: later → ∀ factory, registry.get? name = some factory →
        Invocation.next? (⟨name, factory, finish.1, finish.2⟩ : Invocation S F P) = none := by
  induction names generalizing start with
  | nil => exact ⟨[], start, [], .none start, rfl, nofun⟩
  | cons name rest ih =>
    cases hget : registry.get? name with
    | none =>
      refine ⟨[], start, name :: rest, .none start, rfl, ?_⟩
      intro other later hsame factory hfactory
      obtain ⟨rfl, rfl⟩ := List.cons.inj hsame
      rw [hget] at hfactory
      cases hfactory
    | some factory =>
      cases hnext : Invocation.next? (⟨name, factory, start.1, start.2⟩ : Invocation S F P) with
      | none =>
        refine ⟨[], start, name :: rest, .none start, rfl, ?_⟩
        intro other later hsame another hfactory
        obtain ⟨rfl, rfl⟩ := List.cons.inj hsame
        rw [hget] at hfactory
        cases hfactory
        exact hnext
      | some next =>
        obtain ⟨done, finish, left, hleads, hsplit, hstops⟩ := ih next
        refine ⟨⟨name, factory, start.1, start.2⟩ :: done, finish, left, .step hget hnext hleads, ?_,
          hstops⟩
        rw [hsplit]
        rfl

/-- Building a chain is a construction over the names that are not blank. -/
theorem Chain.build_constructs (registry : Registry F) (order : List String) (port : P) :
    ∃ done : List (Invocation S F P), Constructs registry (order.filter (· != "")) port done
      (build registry order (.bottom : Stack S 0) port).1
      (build registry order (.bottom : Stack S 0) port).2 := by
  obtain ⟨done, ⟨chain, reached⟩, rest, hleads, hsplit, hstops⟩ :=
    exists_leads registry (order.filter (· != "")) ((⟨0, .bottom, []⟩, port) : Chain S × P)
  have hnames : chain.names = [] ++ done.map Invocation.name := hleads.names_eq
  have hcount : chain.names.length = done.length := by simp [hnames]
  have hbuild : build registry order .bottom port = realize registry rest chain reached := by
    rw [build, hsplit]
    exact hleads.realize rest
  refine ⟨done, ?_⟩
  rw [hbuild]
  cases rest with
  | nil =>
    rw [List.append_nil] at hsplit
    exact .built hleads hsplit
  | cons name later =>
    obtain ⟨depth, stack, names⟩ := chain
    dsimp only at hcount
    cases hget : registry.get? name with
    | none =>
      simp only [realize, Registry.lookup, hget, hcount]
      exact .unknown hleads hsplit hget
    | some factory =>
      have hnone := hstops name later rfl factory hget
      simp only [Invocation.next?] at hnone
      simp only [realize, Registry.lookup, hget]
      rcases hmade : Medium.construct factory stack reached with ⟨⟨kind, state⟩ | _ | _, below, left⟩
      · rw [hmade] at hnone
        cases hnone
      · simp only [hcount]
        exact .refused hleads hsplit hget hmade
      · exact .crashed hleads hsplit hget hmade

/-- A chain is built exactly if its names are realized one after another. -/
theorem Chain.build_eq_built_iff {order : List String} {port finish : P} {chain : Chain S} :
    build registry order .bottom port = (.built chain, finish) ↔
      ∃ done : List (Invocation S F P), Leads registry (⟨0, .bottom, []⟩, port) done (chain, finish) ∧
        done.map Invocation.name = order.filter (· != "") := by
  constructor
  · intro hbuild
    obtain ⟨done, hconstructs⟩ := build_constructs (S := S) registry order port
    rw [hbuild] at hconstructs
    cases hconstructs with
    | built leads all => exact ⟨done, leads, all.symm⟩
  · rintro ⟨done, hleads, hnames⟩
    have hrealize := hleads.realize []
    rw [List.append_nil, hnames] at hrealize
    exact hrealize

/-- A chain that is built lists the names. -/
theorem Constructs.names_eq {names : List String} {start port : P} {done : List (Invocation S F P)}
    {chain : Chain S} (h : Constructs registry names start done (.built chain) port) :
    chain.names = names := by
  cases h with
  | built leads all => exact leads.names_eq.trans (by simp [all])

/-- Where no factory breaks off, a construction builds a chain or reports an error. -/
theorem Constructs.ne_crashed {names : List String} {start finish : P}
    {done : List (Invocation S F P)} {building : Building (Chain S)}
    (h : Constructs registry names start done building finish)
    (hanswering : Answering (S := S) (P := P) registry) : building ≠ .crashed := by
  intro hcrashed
  cases h with
  | @crashed chain port left name rest factory below leads split registered breaksOff =>
    have hne := hanswering name factory registered chain port
    rw [breaksOff] at hne
    exact hne rfl
  | _ => cases hcrashed

end Invocations

namespace Compressor

variable {σ : Type} [Sink σ]

/-- What the initialization of a compressor tells of a building and the outlet by then. Over a chain
the outlet is attached, and the layers are named and counted. -/
def Tells (names : List String) (answer : Outcome PipelineError Unit) (compressor : Compressor σ)
    (outlet : Outlet σ) : Building EncoderChain → Prop
  | .built chain => answer = .done () ∧ compressor.guard.state = .built chain ∧
      compressor.outlet = { outlet with
        attached := true
        counters := outlet.counters.setLayers names.length } ∧
      compressor.layerNames = some names ∧ compressor.layerCount = some names.length ∧
      compressor.snapshot.layers = .ofNat names.length
  | .failed error => answer = .failed error ∧ compressor.outlet = outlet
  | .crashed => answer = .crashed ∧ compressor.outlet = outlet

/-- The initialization of a new compressor is a construction. -/
theorem init_constructs (sink : σ) (registry : EncoderRegistry) (order : List String) :
    ∃ (done : List (Invocation Encoder.State EncoderFactory (Outlet σ)))
      (building : Building EncoderChain) (finish : Outlet σ),
      Constructs registry (order.filter (· != "")) { sink } done building finish ∧
      Tells (order.filter (· != "")) (create sink registry order).init.1
        (create sink registry order).init.2 finish building := by
  obtain ⟨done, hconstructs⟩ :=
    Chain.build_constructs (S := Encoder.State) registry order ({ sink } : Outlet σ)
  refine ⟨done, _, _, hconstructs, ?_⟩
  simp only [init, create, InitGuard.start, InitGuard.initWith, InitGuard.settled, construct]
  cases hbuild : Chain.build registry order (.bottom : EncoderStack 0) ({ sink } : Outlet σ) with
  | mk building finish =>
    rw [hbuild] at hconstructs
    cases building with
    | built chain =>
      have hnames : chain.names = order.filter (· != "") := hconstructs.names_eq
      let opened : List String → Outlet σ := fun names =>
        { finish with attached := true, counters := finish.counters.setLayers names.length }
      refine ⟨rfl, rfl, ?_, ?_, ?_, ?_⟩
      · exact congrArg opened hnames
      · exact congrArg some hnames
      · exact congrArg (fun names => some names.length) hnames
      · exact congrArg (fun names => UInt64.ofNat names.length) hnames
    | failed error => exact ⟨rfl, rfl⟩
    | crashed => exact ⟨rfl, rfl⟩

/-- It succeeds exactly if the factories of all names make their layers, one after another. -/
theorem init_eq_done_iff (sink : σ) (registry : EncoderRegistry) (order : List String) :
    (create sink registry order).init.1 = .done () ↔
      ∃ (done : List (Invocation Encoder.State EncoderFactory (Outlet σ)))
        (finish : EncoderChain × Outlet σ),
        Leads registry (⟨0, .bottom, []⟩, { sink }) done finish ∧
          done.map Invocation.name = order.filter (· != "") := by
  constructor
  · intro hdone
    obtain ⟨done, building, finish, hconstructs, htells⟩ := init_constructs sink registry order
    cases hconstructs with
    | built leads all => exact ⟨done, _, leads, all.symm⟩
    | unknown => cases hdone.symm.trans htells.1
    | refused => cases hdone.symm.trans htells.1
    | crashed => cases hdone.symm.trans htells.1
  · rintro ⟨done, finish, hleads, hnames⟩
    have hbuild := Chain.build_eq_built_iff.mpr ⟨done, hleads, hnames⟩
    simp only [init, create, InitGuard.start, InitGuard.initWith, InitGuard.settled, construct,
      hbuild]

/-- What is constructed does not depend on the blank names of the order. -/
theorem construct_congr (registry : EncoderRegistry) {order other : List String}
    (hsame : other.filter (· != "") = order.filter (· != "")) :
    construct (σ := σ) registry other = construct registry order := by
  funext base outlet
  simp only [construct, Chain.build, hsame]

/-- No call depends on them. -/
theorem call_of_same_names {compressor : Compressor σ} (other : List String)
    (hsame : other.filter (· != "") = compressor.order.filter (· != "")) (request : Call) :
    (compressor.given compressor.registry other).call request =
      ((compressor.call request).1,
        (compressor.call request).2.given compressor.registry other) := by
  refine call_given_of_init ?_ request
  obtain ⟨order, registry, guard, outlet⟩ := compressor
  simp only [given, init, construct_congr registry hsame]

/-- No run of calls depends on them. -/
theorem run_of_same_names (sink : σ) (registry : EncoderRegistry) {order other : List String}
    (hsame : other.filter (· != "") = order.filter (· != "")) (calls : List Call) :
    (create sink registry other).run calls =
      ((create sink registry order).run calls).given registry other := by
  induction calls using List.reverseRecOn with
  | nil => rfl
  | append_singleton calls request ih =>
    have hat := at_run sink registry order calls
    have hcall := call_of_same_names other (by rwa [hat.order_eq]) request
    rw [hat.registry_eq] at hcall
    simp only [run] at ih hcall ⊢
    simp only [serve_concat, ih, hcall]

/-- Neither do the replies. -/
theorem replies_of_same_names (sink : σ) (registry : EncoderRegistry) {order other : List String}
    (hsame : other.filter (· != "") = order.filter (· != "")) (calls : List Call) :
    replies call (create sink registry other) calls =
      replies call (create sink registry order) calls := by
  induction calls using List.reverseRecOn with
  | nil => rfl
  | append_singleton calls request ih =>
    have hat := at_run sink registry order calls
    have hcall := call_of_same_names other (by rwa [hat.order_eq]) request
    rw [hat.registry_eq, ← run_of_same_names sink registry hsame] at hcall
    have hreply := congrArg Prod.fst hcall
    simp only [run] at hreply
    simp only [replies_concat, ih, hreply]

end Compressor

namespace Decompressor

variable {σ : Type} [Source σ]

/-- What the initialization of a decompressor tells of a building and the inlet by then. Over a
chain the layers are named and counted. -/
def Tells (names : List String) (answer : Outcome PipelineError Unit)
    (decompressor : Decompressor σ) (inlet : Inlet σ) : Building DecoderChain → Prop
  | .built chain => answer = .done () ∧ decompressor.guard.state = .built chain ∧
      decompressor.inlet = { inlet with counters := inlet.counters.setLayers names.length } ∧
      decompressor.layerNames = some names ∧ decompressor.layerCount = some names.length ∧
      decompressor.snapshot.layers = .ofNat names.length
  | .failed error => answer = .failed error ∧ decompressor.inlet = inlet
  | .crashed => answer = .crashed ∧ decompressor.inlet = inlet

/-- The initialization of a new decompressor is a construction. -/
theorem init_constructs (source : σ) (registry : DecoderRegistry) (order : List String) :
    ∃ (done : List (Invocation Decoder.State DecoderFactory (Inlet σ)))
      (building : Building DecoderChain) (finish : Inlet σ),
      Constructs registry (order.filter (· != "")) { source } done building finish ∧
      Tells (order.filter (· != "")) (create source registry order).init.1
        (create source registry order).init.2 finish building := by
  obtain ⟨done, hconstructs⟩ :=
    Chain.build_constructs (S := Decoder.State) registry order ({ source } : Inlet σ)
  refine ⟨done, _, _, hconstructs, ?_⟩
  simp only [init, create, InitGuard.start, InitGuard.initWith, InitGuard.settled, construct]
  cases hbuild : Chain.build registry order (.bottom : DecoderStack 0) ({ source } : Inlet σ) with
  | mk building finish =>
    rw [hbuild] at hconstructs
    cases building with
    | built chain =>
      have hnames : chain.names = order.filter (· != "") := hconstructs.names_eq
      let opened : List String → Inlet σ := fun names =>
        { finish with counters := finish.counters.setLayers names.length }
      refine ⟨rfl, rfl, ?_, ?_, ?_, ?_⟩
      · exact congrArg opened hnames
      · exact congrArg some hnames
      · exact congrArg (fun names => some names.length) hnames
      · exact congrArg (fun names => UInt64.ofNat names.length) hnames
    | failed error => exact ⟨rfl, rfl⟩
    | crashed => exact ⟨rfl, rfl⟩

/-- It succeeds exactly if the factories of all names make their layers, one after another. -/
theorem init_eq_done_iff (source : σ) (registry : DecoderRegistry) (order : List String) :
    (create source registry order).init.1 = .done () ↔
      ∃ (done : List (Invocation Decoder.State DecoderFactory (Inlet σ)))
        (finish : DecoderChain × Inlet σ),
        Leads registry (⟨0, .bottom, []⟩, { source }) done finish ∧
          done.map Invocation.name = order.filter (· != "") := by
  constructor
  · intro hdone
    obtain ⟨done, building, finish, hconstructs, htells⟩ := init_constructs source registry order
    cases hconstructs with
    | built leads all => exact ⟨done, _, leads, all.symm⟩
    | unknown => cases hdone.symm.trans htells.1
    | refused => cases hdone.symm.trans htells.1
    | crashed => cases hdone.symm.trans htells.1
  · rintro ⟨done, finish, hleads, hnames⟩
    have hbuild := Chain.build_eq_built_iff.mpr ⟨done, hleads, hnames⟩
    simp only [init, create, InitGuard.start, InitGuard.initWith, InitGuard.settled, construct,
      hbuild]

/-! ### Blank names -/

/-- What is constructed does not depend on the blank names of the order. -/
theorem construct_congr (registry : DecoderRegistry) {order other : List String}
    (hsame : other.filter (· != "") = order.filter (· != "")) :
    construct (σ := σ) registry other = construct registry order := by
  funext base inlet
  simp only [construct, Chain.build, hsame]

/-- No call depends on them. -/
theorem call_of_same_names {decompressor : Decompressor σ} (other : List String)
    (hsame : other.filter (· != "") = decompressor.order.filter (· != "")) (request : Call) :
    (decompressor.given decompressor.registry other).call request =
      ((decompressor.call request).1,
        (decompressor.call request).2.given decompressor.registry other) := by
  refine call_given_of_init ?_ request
  obtain ⟨order, registry, guard, inlet⟩ := decompressor
  simp only [given, init, construct_congr registry hsame]

/-- No run of calls depends on them. -/
theorem run_of_same_names (source : σ) (registry : DecoderRegistry) {order other : List String}
    (hsame : other.filter (· != "") = order.filter (· != "")) (calls : List Call) :
    (create source registry other).run calls =
      ((create source registry order).run calls).given registry other := by
  induction calls using List.reverseRecOn with
  | nil => rfl
  | append_singleton calls request ih =>
    have hat := at_run source registry order calls
    have hcall := call_of_same_names other (by rwa [hat.order_eq]) request
    rw [hat.registry_eq] at hcall
    simp only [run] at ih hcall ⊢
    simp only [serve_concat, ih, hcall]

/-- Neither do the replies. -/
theorem replies_of_same_names (source : σ) (registry : DecoderRegistry)
    {order other : List String} (hsame : other.filter (· != "") = order.filter (· != ""))
    (calls : List Call) :
    replies call (create source registry other) calls =
      replies call (create source registry order) calls := by
  induction calls using List.reverseRecOn with
  | nil => rfl
  | append_singleton calls request ih =>
    have hat := at_run source registry order calls
    have hcall := call_of_same_names other (by rwa [hat.order_eq]) request
    rw [hat.registry_eq, ← run_of_same_names source registry hsame] at hcall
    have hreply := congrArg Prod.fst hcall
    simp only [run] at hreply
    simp only [replies_concat, ih, hreply]

end Decompressor

/-- Construction is exact on both pipelines. The initialization of a new pipeline invokes the
factories of the names that are not blank from left to right, each on what the one before has led
to, up to the first name that is not registered or whose factory makes no layer. It answers and
counts and names the layers accordingly, and breaks off only where a factory does. It succeeds
exactly if all factories make their layers. Blank names are transparent: the replies to any calls
are the same without them, and so is all that the calls lead to. -/
theorem construction_is_exact :
    (∀ {σ : Type} [Sink σ] (sink : σ) (registry : EncoderRegistry) (order : List String),
      let names := order.filter (· != "")
      let new := Compressor.create sink registry order
      (∃ (done : List (Invocation Encoder.State EncoderFactory (Outlet σ)))
          (building : Building EncoderChain) (finish : Outlet σ),
        Constructs registry names { sink } done building finish ∧
        Compressor.Tells names new.init.1 new.init.2 finish building ∧
        (Answering (S := Encoder.State) (P := Outlet σ) registry → building ≠ .crashed)) ∧
      (new.init.1 = .done () ↔
        ∃ (done : List (Invocation Encoder.State EncoderFactory (Outlet σ)))
          (finish : EncoderChain × Outlet σ),
          Leads registry (⟨0, .bottom, []⟩, { sink }) done finish ∧
            done.map Invocation.name = names) ∧
      ∀ other : List String, other.filter (· != "") = names → ∀ calls : List Compressor.Call,
        replies Compressor.call (Compressor.create sink registry other) calls =
            replies Compressor.call new calls ∧
          (Compressor.create sink registry other).run calls =
            (new.run calls).given registry other) ∧
    (∀ {σ : Type} [Source σ] (source : σ) (registry : DecoderRegistry) (order : List String),
      let names := order.filter (· != "")
      let new := Decompressor.create source registry order
      (∃ (done : List (Invocation Decoder.State DecoderFactory (Inlet σ)))
          (building : Building DecoderChain) (finish : Inlet σ),
        Constructs registry names { source } done building finish ∧
        Decompressor.Tells names new.init.1 new.init.2 finish building ∧
        (Answering (S := Decoder.State) (P := Inlet σ) registry → building ≠ .crashed)) ∧
      (new.init.1 = .done () ↔
        ∃ (done : List (Invocation Decoder.State DecoderFactory (Inlet σ)))
          (finish : DecoderChain × Inlet σ),
          Leads registry (⟨0, .bottom, []⟩, { source }) done finish ∧
            done.map Invocation.name = names) ∧
      ∀ other : List String, other.filter (· != "") = names → ∀ calls : List Decompressor.Call,
        replies Decompressor.call (Decompressor.create source registry other) calls =
            replies Decompressor.call new calls ∧
          (Decompressor.create source registry other).run calls =
            (new.run calls).given registry other) := by
  constructor
  · intro σ _ sink registry order names new
    obtain ⟨done, building, finish, hconstructs, htells⟩ :=
      Compressor.init_constructs sink registry order
    refine ⟨⟨done, building, finish, hconstructs, htells, hconstructs.ne_crashed⟩,
      Compressor.init_eq_done_iff sink registry order, ?_⟩
    intro other hsame calls
    exact ⟨Compressor.replies_of_same_names sink registry hsame calls,
      Compressor.run_of_same_names sink registry hsame calls⟩
  · intro σ _ source registry order names new
    obtain ⟨done, building, finish, hconstructs, htells⟩ :=
      Decompressor.init_constructs source registry order
    refine ⟨⟨done, building, finish, hconstructs, htells, hconstructs.ne_crashed⟩,
      Decompressor.init_eq_done_iff source registry order, ?_⟩
    intro other hsame calls
    exact ⟨Decompressor.replies_of_same_names source registry hsame calls,
      Decompressor.run_of_same_names source registry hsame calls⟩

/-- A name that is not registered stands third in an order, behind a blank one and one whose factory
leaves a line. The error has the index 1, the line is left once, and without the blank name the
replies are the same. -/
theorem absent_name_counts_no_blanks :
    let registry : EncoderRegistry :=
      .ofList [("mask", Scripted.noted "mask" (Scripted.masking 1) ())]
    let sink : Array UInt8 := #[]
    let blank := Compressor.create sink registry ["", "mask", "absent"]
    let plain := Compressor.create sink registry ["mask", "absent"]
    let calls : List Compressor.Call := [.write [7], .layerNames, .close, .snapshot]
    ["mask", "absent"].filter (· != "") = ["", "mask", "absent"].filter (· != "") ∧
      plain.init.1 = .failed (.unsupported 1 "absent") ∧
      blank.init.1 = .failed (.unsupported 1 "absent") ∧
      (blank.run calls).outlet.journal = #["build:mask"] ∧
      replies Compressor.call plain calls = replies Compressor.call blank calls ∧
      plain.run calls = (blank.run calls).given registry ["mask", "absent"] := by
  intro registry sink blank plain calls
  have hsame : ["mask", "absent"].filter (· != "") = ["", "mask", "absent"].filter (· != "") := by
    decide
  obtain ⟨hreplies, hrun⟩ :=
    (construction_is_exact.1 sink registry ["", "mask", "absent"]).2.2 _ hsame calls
  exact ⟨hsame, by decide, by decide, by decide, hreplies, hrun⟩

end ContentCoding
