import ContentCoding.Proofs.ClosingWalk
import ContentCoding.Proofs.OneShot
import ContentCoding.Proofs.Recovery

/-!
# Streams that may break

A reader may report a fault in place of the end of its stream. A flow is what is
known of such a stream: its bytes, and how it ends. If it breaks suddenly, the fault
may be reported before all of the bytes have been given. That is what becomes of a
stream below a decoder that drops what it has decoded when it finds an error. Once
the fault has been reported nothing is known any more.

A decoder converts one flow into another if its answers are those of the second,
whatever pieces the first comes in and whatever room its own caller has. The main
statement is that one-shot decoding through layers that convert one flow into the next
comes to what the last flow says, be it the bytes or the fault.
-/

namespace ContentCoding

universe u v

/-- How a stream ends. -/
inductive Ending
  /-- With its last byte. -/
  | closed
  /-- With a fault that is no interruption. A sudden one may be reported before the last byte. -/
  | broken (fault : Fault) (sudden : Bool) (lasting : fault.isInterruption = false)

/-- What is known of a stream. -/
structure Flow where
  /-- The bytes that it gives. -/
  bytes : Bytes
  /-- How it ends. -/
  ending : Ending

namespace Flow

/-- With some room a read of the stream may be answered so, and then so much is known of it. -/
inductive Hands (room : Nat) : Flow → Except Fault Bytes → Option Flow → Prop
  /-- The next bytes are given. -/
  | gives {given rest : Bytes} {ending : Ending} (filled : given ≠ [])
      (fits : given.length ≤ room) :
      Hands room ⟨given ++ rest, ending⟩ (.ok given) (some ⟨rest, ending⟩)
  /-- The stream has ended, and stays so. -/
  | ends : Hands room ⟨[], .closed⟩ (.ok []) (some ⟨[], .closed⟩)
  /-- The stream breaks. -/
  | breaks {bytes : Bytes} {fault : Fault} {sudden : Bool}
      {lasting : fault.isInterruption = false} (due : sudden = true ∨ bytes = []) :
      Hands room ⟨bytes, .broken fault sudden lasting⟩ (.error fault) none

variable {room : Nat} {data : Bytes} {answer : Except Fault Bytes} {after : Option Flow}

/-- What may be given of data are answers of a stream that ends with them. -/
theorem Hands.of_mayGive {given : Nat} (h : data.MayGive room given)
    (hanswer : answer = .ok (data.take given)) :
    Hands room ⟨data, .closed⟩ answer (some ⟨data.drop given, .closed⟩) := by
  obtain ⟨hroom, hlen, hsome⟩ := h
  subst hanswer
  by_cases hdata : data = []
  · subst hdata
    rw [List.take_nil, List.drop_nil]
    exact .ends
  · have htake : data.take given ≠ [] := by
      have := hsome hdata
      rw [Ne, List.take_eq_nil_iff]
      rintro (hzero | hnil)
      · omega
      · exact hdata hnil
    have hfits : (data.take given).length ≤ room :=
      Nat.le_trans (List.length_take_le ..) hroom
    have hgives := @Hands.gives room (data.take given) (data.drop given) .closed htake hfits
    rwa [List.take_append_drop] at hgives

/-- A stream that ends with data gives what may be given of them. -/
theorem Hands.mayGive (h : Hands room ⟨data, .closed⟩ answer after) :
    ∃ given, data.MayGive room given ∧ answer = .ok (data.take given) ∧
      after = some ⟨data.drop given, .closed⟩ := by
  cases h with
  | @gives given rest _ filled fits =>
    have hpositive := List.length_pos_iff.mpr filled
    refine ⟨given.length, ⟨fits, ?_, fun _ => hpositive⟩, ?_, ?_⟩
    · rw [List.length_append]
      exact Nat.le_add_right _ _
    · rw [List.take_left]
    · rw [List.drop_left]
  | ends => exact ⟨0, ⟨Nat.zero_le _, Nat.le_refl _, fun h => absurd rfl h⟩, rfl, rfl⟩

end Flow

/-- The exchange reads a stream with room for at least one byte, whatever it is answered. Once
nothing is known of the stream the answers may be any. -/
def Pull.Draws {α : Type u} (post : α → Option Flow → Prop) : Pull α → Option Flow → Prop
  | .done result, flow => post result flow
  | .read _ next, none => ∀ answer, (next answer).Draws post none
  | .read room next, some flow =>
    1 ≤ room ∧ ∀ answer after, flow.Hands room answer after → (next answer).Draws post after
  | .remark _ next, flow => next.Draws post flow

namespace Pull.Draws

variable {α : Type u}

/-- A weaker condition is satisfied as well. -/
theorem mono {post other : α → Option Flow → Prop} (hpost : ∀ result flow,
    post result flow → other result flow) {pull : Pull α} {flow : Option Flow}
    (h : pull.Draws post flow) : pull.Draws other flow := by
  induction pull generalizing flow with
  | done result => exact hpost result flow h
  | read room next ih =>
    cases flow with
    | none => exact fun answer => ih answer (h answer)
    | some flow => exact ⟨h.1, fun answer after hhands => ih answer (h.2 answer after hhands)⟩
  | remark text next ih => exact ih h

/-- Where nothing is known any exchange will do, and nothing is known after it. -/
theorem blindly (pull : Pull α) : pull.Draws (fun _ after => after = none) none := by
  induction pull with
  | done result => rfl
  | read room next ih => exact ih
  | remark text next ih => exact ih

end Pull.Draws

/-- What an exchange consumes it reads from a stream that ends with it. -/
theorem Pull.Consumes.draws {α : Type u} {post : α → Bytes → Prop} {pull : Pull α}
    {encoded : Bytes} (h : pull.Consumes post encoded) :
    pull.Draws (fun result after => ∃ rest, after = some ⟨rest, .closed⟩ ∧ post result rest)
      (some ⟨encoded, .closed⟩) := by
  induction pull generalizing encoded with
  | done result => exact ⟨encoded, rfl, h⟩
  | read room next ih =>
    obtain ⟨hroom, hall⟩ := h
    refine ⟨hroom, fun answer after hhands => ?_⟩
    obtain ⟨given, hgiven, rfl, rfl⟩ := hhands.mayGive
    exact ih _ (hall given hgiven)
  | remark text next ih => exact ih h

/-- A reader in a world that carries a stream answers as the stream does, and is left in a world
that carries what is then known of it. -/
structure Reader.Carries {W : Type v} (reader : Reader W) (carries : W → Option Flow → Prop) :
    Prop where
  /-- With room for a byte the answer is one of the stream's. -/
  read : ∀ world flow room, 1 ≤ room → carries world (some flow) →
    ∃ after, flow.Hands room (reader.read world room).1 after ∧
      carries (reader.read world room).2 after
  /-- Where nothing is known nothing has to be. -/
  blind : ∀ world room, carries world none → carries (reader.read world room).2 none
  /-- Adding a line changes nothing about that. -/
  remark : ∀ world text flow, carries world flow → carries (reader.remark world text) flow

/-- An exchange reads the stream that a reader carries. -/
theorem Pull.Draws.run {W : Type v} {reader : Reader W} {carries : W → Option Flow → Prop}
    (hr : reader.Carries carries) {α : Type u} {post : α → Option Flow → Prop} {pull : Pull α}
    {flow : Option Flow} (h : pull.Draws post flow) (world : W) (hc : carries world flow) :
    ∃ after, post (pull.run reader world).1 after ∧ carries (pull.run reader world).2 after := by
  induction pull generalizing flow world with
  | done result => exact ⟨flow, h, hc⟩
  | read room next ih =>
    cases flow with
    | none => exact ih _ (h _) _ (hr.blind world room hc)
    | some flow =>
      obtain ⟨hroom, hall⟩ := h
      obtain ⟨after, hhands, hnext⟩ := hr.read world flow room hroom hc
      exact ih _ (hall _ after hhands) _ hnext
  | remark text next ih => exact ih h _ (hr.remark world text flow hc)

namespace Decoder

variable (decoder : Decoder)

/-- A relation between states, what is known of the stream below, and a flow, which every read
respects: it answers as the flow does, and leaves the rest related. -/
def Converting (relates : decoder.State → Option Flow → Flow → Prop) : Prop :=
  ∀ state source flow room, 1 ≤ room → relates state source flow →
    (decoder.read state room).Draws (fun result left =>
      ∃ after, flow.Hands room result.1 after ∧
        ∀ rest, after = some rest → relates result.2 left rest) source

/-- Whatever pieces the stream below comes in, a layer of this kind answers as a flow does. -/
def Converts (state : decoder.State) (source : Option Flow) (flow : Flow) : Prop :=
  ∃ relates, decoder.Converting relates ∧ relates state source flow

/-- A layer of this kind is finalized without an error, whatever is below. -/
def Releases : Prop :=
  ∀ state, (decoder.finalize state).Draws (fun result _ => result.1 = .ok ()) none

variable {decoder} {state : decoder.State}

/-- A layer that converts a stream into a flow answers as the flow does. -/
theorem Converts.read {source : Option Flow} {flow : Flow} (h : decoder.Converts state source flow)
    {room : Nat} (hroom : 1 ≤ room) :
    (decoder.read state room).Draws (fun result left =>
      ∃ after, flow.Hands room result.1 after ∧
        ∀ rest, after = some rest → decoder.Converts result.2 left rest) source := by
  obtain ⟨relates, hconverting, hrel⟩ := h
  refine (hconverting state source flow room hroom hrel).mono ?_
  rintro result left ⟨after, hhands, hnext⟩
  exact ⟨after, hhands, fun rest hrest => ⟨relates, hconverting, hnext rest hrest⟩⟩

/-- A layer that recovers data converts the encoded bytes into them. -/
theorem Recovers.converts {encoded data : Bytes} (h : decoder.Recovers state encoded data) :
    decoder.Converts state (some ⟨encoded, .closed⟩) ⟨data, .closed⟩ := by
  refine ⟨fun state source flow => ∃ encoded data, source = some ⟨encoded, .closed⟩ ∧
    flow = ⟨data, .closed⟩ ∧ decoder.Recovers state encoded data, ?_, encoded, data, rfl, rfl, h⟩
  rintro state _ _ room hroom ⟨encoded, data, rfl, rfl, h⟩
  refine (h.read hroom).draws.mono ?_
  rintro result _ ⟨rest, rfl, given, hgiven, hanswer, hnext⟩
  refine ⟨_, .of_mayGive hgiven hanswer, ?_⟩
  rintro _ ⟨⟩
  exact ⟨rest, data.drop given, rfl, rfl, hnext⟩

end Decoder

namespace DecoderStack

variable {σ : Type}

/-- The layers convert what the source has left into a flow, one after another from the bottom
up, and all of them can be finalized. -/
def Bears (holds : σ → Bytes → Prop) (source : σ) :
    {depth : Nat} → DecoderStack depth → Option Flow → Prop
  | _, .bottom, flow =>
    ∀ known, flow = some known → ∃ data, holds source data ∧ known = ⟨data, .closed⟩
  | _, .layer _ decoder state below, flow =>
    decoder.Releases ∧ ∃ between, Bears holds source below between ∧
      ∀ known, flow = some known → decoder.Converts state between known

variable {holds : σ → Bytes → Prop}

/-- What is known may be forgotten. -/
theorem Bears.forget {source : σ} {depth : Nat} {stack : DecoderStack depth}
    {flow : Option Flow} (h : Bears holds source stack flow) : Bears holds source stack none := by
  cases stack with
  | bottom => exact nofun
  | layer name decoder state below => exact ⟨h.1, h.2.choose, h.2.choose_spec.1, nofun⟩

variable [Source σ]

/-- A stack over a source that hands out something answers as the flow that it bears. -/
theorem reader_carries (hs : Source.Supplies holds) (depth : Nat) :
    (reader depth).Carries fun (world : DecoderStack depth × Inlet σ) flow =>
      Bears holds world.2.source world.1 flow := by
  induction depth with
  | zero =>
    refine ⟨?_, ?_, ?_⟩
    · rintro ⟨⟨⟩, inlet⟩ flow room hroom h
      obtain ⟨data, hholds, rfl⟩ := h flow rfl
      obtain ⟨given, hgiven, hanswer, hnext⟩ := Inlet.read_supplies hs hholds hroom
      have hread : ((reader 0).read ((.bottom : DecoderStack 0), inlet) room).1 =
          .ok (data.take given) := hanswer
      refine ⟨_, .of_mayGive hgiven hread, ?_⟩
      rintro _ ⟨⟩
      exact ⟨_, hnext, rfl⟩
    · rintro ⟨⟨⟩, inlet⟩ room h
      exact nofun
    · rintro ⟨⟨⟩, inlet⟩ text flow h
      exact h
  | succ depth ih =>
    refine ⟨?_, ?_, ?_⟩
    · rintro ⟨⟨⟩, inlet⟩ flow room hroom ⟨hreleases, between, hbelow, hconverts⟩
      obtain ⟨left, ⟨after, hhands, hnext⟩, hleft⟩ :=
        ((hconverts flow rfl).read hroom).run ih (_, inlet) hbelow
      exact ⟨after, hhands, hreleases, left, hleft, hnext⟩
    · rintro ⟨_ | ⟨name, decoder, state, below⟩, inlet⟩ room ⟨hreleases, between, hbelow, -⟩
      obtain ⟨left, -, hleft⟩ :=
        (Pull.Draws.blindly (decoder.read state room)).run ih (below, inlet) hbelow.forget
      exact ⟨hreleases, left, hleft, nofun⟩
    · rintro ⟨⟨⟩, inlet⟩ text flow h
      exact h

/-- A stack whose layers can be finalized is, without an error. -/
theorem finalizeAlong_bears (hs : Source.Supplies holds) {depth : Nat}
    {stack : DecoderStack depth} {inlet : Inlet σ} {flow : Option Flow}
    (h : Bears holds inlet.source stack flow) (entries : List (String × Nat)) :
    (Stack.finalizeAlong entries stack inlet).1 = .ok () := by
  induction depth generalizing entries inlet flow with
  | zero =>
    cases stack
    cases entries <;> rfl
  | succ depth ih =>
    obtain _ | @⟨_, name, decoder, state, below⟩ := stack
    obtain _ | ⟨⟨entry, index⟩, entries⟩ := entries
    · rfl
    obtain ⟨hreleases, between, hbelow, -⟩ := h
    have hmeet : (Stack.meet decoder state below inlet).1.1 = .ok () ∧
        ∃ after, Bears holds (Stack.meet decoder state below inlet).2.2.source
          (Stack.meet decoder state below inlet).2.1 after := by
      rw [Stack.meet]
      split
      · obtain ⟨after, hanswer, hleft⟩ :=
          (hreleases state).run (reader_carries hs depth) (below, inlet) hbelow.forget
        exact ⟨hanswer, after, hleft⟩
      · exact ⟨rfl, between, hbelow⟩
    rw [Stack.finalizeAlong_layer]
    generalize Stack.meet decoder state below inlet = met at hmeet
    obtain ⟨⟨answer, after⟩, rest, left⟩ := met
    obtain ⟨hanswer, known, hleft⟩ := hmeet
    dsimp only at hanswer hleft
    subst hanswer
    dsimp only
    split
    · exact ih hleft entries
    · rfl

end DecoderStack

/-- The factory makes a layer that can be finalized and converts a stream into a flow. It may
read from the stream already. -/
def DecoderFactory.Turns (factory : DecoderFactory) (source flow : Flow) : Prop :=
  factory.Draws (fun made left => ∃ decoder state, made = .built decoder state ∧
    decoder.Releases ∧ decoder.Converts state left flow) (some source)

namespace DecoderRegistry

/-- Layers of the names, the first of them lowest, convert one flow into another. -/
def Turns (registry : DecoderRegistry) : List String → Flow → Flow → Prop
  | [], source, flow => flow = source
  | name :: names, source, flow =>
    ∃ between factory, registry.get? name = some factory ∧ factory.Turns source between ∧
      registry.Turns names between flow

variable {registry : DecoderRegistry}

/-- Layers over others convert what the others make of a flow. -/
theorem turns_append {lower upper : List String} {source flow : Flow} :
    registry.Turns (lower ++ upper) source flow ↔
      ∃ between, registry.Turns lower source between ∧ registry.Turns upper between flow := by
  induction lower generalizing source with
  | nil =>
    constructor
    · exact fun h => ⟨source, rfl, h⟩
    · rintro ⟨between, rfl, h⟩
      exact h
  | cons name lower ih =>
    constructor
    · rintro ⟨first, factory, hfactory, hturns, hrest⟩
      obtain ⟨between, hlower, hupper⟩ := ih.mp hrest
      exact ⟨between, ⟨first, factory, hfactory, hturns, hlower⟩, hupper⟩
    · rintro ⟨between, ⟨first, factory, hfactory, hturns, hlower⟩, hupper⟩
      exact ⟨first, factory, hfactory, hturns, ih.mpr ⟨between, hlower, hupper⟩⟩

variable {σ : Type} [Source σ] {holds : σ → Bytes → Prop}

/-- Realizing names on a stack that bears a flow gives one that bears what the layers convert it
into. -/
theorem realize_bears (hs : Source.Supplies holds) {names : List String} {source flow : Flow}
    {chain : DecoderChain} {inlet : Inlet σ} (ht : registry.Turns names source flow)
    (hb : DecoderStack.Bears holds inlet.source chain.stack (some source)) :
    ∃ result, (Chain.realize registry names chain inlet).1 = .built result ∧
      DecoderStack.Bears holds (Chain.realize registry names chain inlet).2.source
        result.stack (some flow) := by
  induction names generalizing chain source inlet with
  | nil =>
    rw [Turns] at ht
    exact ⟨chain, rfl, ht ▸ hb⟩
  | cons name names ih =>
    obtain ⟨depth, stack, list⟩ := chain
    obtain ⟨between, factory, hfactory, hturns, hrest⟩ := ht
    obtain ⟨left, ⟨decoder, state, hmade, hreleases, hconverts⟩, hleft⟩ :=
      hturns.run (DecoderStack.reader_carries hs depth) (stack, inlet) hb
    have hc : Medium.construct factory stack inlet =
        factory.run (DecoderStack.reader depth) (stack, inlet) := rfl
    simp only [Chain.realize, Registry.lookup, hfactory, hc]
    generalize factory.run (DecoderStack.reader depth) (stack, inlet) = made at hmade hleft
    obtain ⟨construction, below, after⟩ := made
    dsimp only at hmade
    subst hmade
    refine ih hrest ⟨hreleases, left, hleft, ?_⟩
    rintro known ⟨⟩
    exact hconverts

end DecoderRegistry

namespace Decompressor

variable {σ : Type} [Source σ] {holds : σ → Bytes → Prop}

/-- The chain stands and bears what is known of a stream. -/
def Bears (holds : σ → Bytes → Prop) (decompressor : Decompressor σ) (flow : Option Flow) : Prop :=
  ∃ chain : DecoderChain, decompressor.guard = ⟨.built, none, .built chain⟩ ∧
    DecoderStack.Bears holds decompressor.inlet.source chain.stack flow

variable {decompressor : Decompressor σ} {flow : Flow}

/-- A read is answered as the flow is. -/
theorem Bears.read (hs : Source.Supplies holds) (h : decompressor.Bears holds (some flow))
    {room : Nat} (hroom : 1 ≤ room) :
    ∃ answer after, flow.Hands room answer after ∧
      (decompressor.read room).1 = .ofExcept answer ∧
      (decompressor.read room).2.Bears holds after := by
  obtain ⟨chain, hguard, hbears⟩ := h
  have hinit : decompressor.init = (.done (), decompressor) := by
    obtain ⟨order, registry, guard, inlet⟩ := decompressor
    cases hguard
    rfl
  obtain ⟨after, hhands, hnext⟩ :=
    (DecoderStack.reader_carries hs chain.depth).read (chain.stack, decompressor.inlet) flow room
      hroom hbears
  refine ⟨_, after, hhands, ?_⟩
  simp only [read_eq, hinit, readBuilt_of_built (congrArg InitGuard.state hguard)]
  refine ⟨rfl, (DecoderChain.read room chain decompressor.inlet).2.1, by rw [hguard], ?_⟩
  have hsource : ∀ (inlet : Inlet σ) answer, (inlet.credit answer).source = inlet.source := by
    intro inlet answer
    cases answer <;> rfl
  rw [hsource]
  exact hnext

/-- Closing succeeds. -/
theorem Bears.close (hs : Source.Supplies holds) {flow : Option Flow}
    (h : decompressor.Bears holds flow) : decompressor.close.1 = .ok () := by
  obtain ⟨chain, hguard, hbears⟩ := h
  rw [close_of_built (congrArg InitGuard.state hguard)]
  exact DecoderStack.finalizeAlong_bears hs hbears _

/-- A new decompressor whose layers convert what the source has into a flow bears it once it is
initialized. -/
theorem init_bears (hs : Source.Supplies holds) {registry : DecoderRegistry} {order : List String}
    {encoded : Bytes} {source : σ}
    (ht : registry.Turns (order.filter (· != "")) ⟨encoded, .closed⟩ flow)
    (hsource : holds source encoded) :
    (create source registry order).init.1 = .done () ∧
      (create source registry order).init.2.Bears holds (some flow) := by
  have hbase : DecoderStack.Bears holds source (.bottom : DecoderStack 0)
      (some ⟨encoded, .closed⟩) := by
    rintro _ ⟨⟩
    exact ⟨encoded, hsource, rfl⟩
  obtain ⟨chain, hbuilt, hbears⟩ :=
    @DecoderRegistry.realize_bears registry σ _ holds hs _ _ flow ⟨0, .bottom, []⟩ { source } ht
      hbase
  simp only [Decompressor.init, create, InitGuard.start, InitGuard.initWith, InitGuard.settled,
    construct, Chain.build]
  generalize Chain.realize registry (order.filter (· != "")) (⟨0, .bottom, []⟩ : DecoderChain)
    ({ source } : Inlet σ) = realized at hbuilt hbears
  obtain ⟨building, inlet⟩ := realized
  dsimp only at hbuilt
  subst hbuilt
  exact ⟨rfl, chain, rfl, hbears⟩

end Decompressor

/-- What reading a stream to its end comes to, after some bytes that were read before. -/
def Flow.verdict (flow : Flow) (before : Bytes) : Outcome Fault Bytes :=
  match flow.ending with
  | .closed => .done (before ++ flow.bytes)
  | .broken fault _ _ => .failed fault

/-- Bytes of a stream may be read before. -/
theorem Flow.verdict_append (given rest before : Bytes) (ending : Ending) :
    Flow.verdict ⟨given ++ rest, ending⟩ before = Flow.verdict ⟨rest, ending⟩ (before ++ given) := by
  cases ending with
  | closed => exact congrArg Outcome.done (List.append_assoc _ _ _).symm
  | broken fault sudden lasting => rfl

/-- What decoding a stream in one go comes to. -/
def Flow.outcome (flow : Flow) : Outcome PipelineError Bytes :=
  match flow.ending with
  | .closed => .done flow.bytes
  | .broken fault _ _ => .failed fault.toPipelineError

namespace Decompressor

variable {σ : Type} [Source σ] {holds : σ → Bytes → Prop}
variable {decompressor : Decompressor σ} {flow : Flow}

/-- Reading a stream to its end comes to what the stream says, if there are enough reads for a
byte in each and for the end, and otherwise to that or to an interruption. The sizes of the reads
do not matter. -/
theorem Bears.readToEndFor (hs : Source.Supplies holds) (attempts : Nat) (sizes : ReadSizes)
    (h : decompressor.Bears holds (some flow)) (pieces : List Bytes) :
    ((Decompressor.readToEndFor attempts sizes decompressor pieces).1 =
        flow.verdict pieces.reverse.flatten ∨
      attempts ≤ flow.bytes.length ∧
        (Decompressor.readToEndFor attempts sizes decompressor pieces).1 =
          .failed (.bare .interrupted)) ∧
      ∃ after,
        (Decompressor.readToEndFor attempts sizes decompressor pieces).2.Bears holds after := by
  induction attempts generalizing sizes decompressor flow pieces with
  | zero => exact ⟨.inr ⟨Nat.zero_le _, rfl⟩, _, h⟩
  | succ attempts ih =>
    obtain ⟨answer, after, hhands, hanswer, hnext⟩ := h.read hs sizes.next_pos
    simp only [Decompressor.readToEndFor]
    generalize decompressor.read sizes.next = answered at hanswer hnext
    obtain ⟨outcome, next⟩ := answered
    dsimp only at hanswer hnext
    subst hanswer
    cases hhands with
    | @gives given rest ending filled fits =>
      obtain ⟨byte, bytes, rfl⟩ := List.exists_cons_of_ne_nil filled
      obtain ⟨hverdict, hkept⟩ := ih (sizes.after _) hnext ((byte :: bytes) :: pieces)
      rw [List.reverse_cons, List.flatten_append, List.flatten_singleton,
        ← Flow.verdict_append] at hverdict
      refine ⟨hverdict.imp_right ?_, hkept⟩
      rintro ⟨hfew, hinterrupted⟩
      refine ⟨?_, hinterrupted⟩
      dsimp only at hfew ⊢
      rw [List.length_append, List.length_cons]
      omega
    | ends =>
      refine ⟨.inl ?_, _, hnext⟩
      rw [Flow.verdict, List.append_nil]
      rfl
    | @breaks bytes fault sudden lasting due =>
      simp only [Outcome.ofExcept, lasting, Bool.false_eq_true, if_false]
      exact ⟨.inl rfl, _, hnext⟩

end Decompressor

variable {registry : DecoderRegistry} {order : List String} {attempts : Nat} {data : Bytes}
variable {flow : Flow}

/-- One-shot decoding through layers that convert the data into a flow comes to what the flow
says, whatever the sizes of the reads are, unless there are no more reads than bytes: then it may
also be interrupted. -/
theorem decompress_of_turns
    (h : registry.Turns (order.filter (· != "")) ⟨data, .closed⟩ flow) (attempts : Nat)
    (sizes : ReadSizes) :
    decompress attempts sizes registry order data = flow.outcome ∨
      attempts ≤ flow.bytes.length ∧
        decompress attempts sizes registry order data =
          .failed (.stream (.bare .interrupted)) := by
  obtain ⟨hinit, hbears⟩ := Decompressor.init_bears Bytes.supplies h rfl
  obtain ⟨hread, after, hkept⟩ := hbears.readToEndFor Bytes.supplies attempts sizes []
  rw [decompress, decompressFrom_eq_whenBuilt, Decompressor.whenBuilt]
  generalize (Decompressor.create data registry order).init = opened at hinit hread hkept
  obtain ⟨started, decompressor⟩ := opened
  dsimp only at hinit hread hkept
  subst hinit
  dsimp only
  rw [Decompressor.readOut, Decompressor.readToEnd]
  generalize decompressor.readToEndFor attempts sizes [] = got at hread hkept
  obtain ⟨outcome, last⟩ := got
  dsimp only at hread hkept
  rcases hread with hread | ⟨hfew, hread⟩
  · left
    subst hread
    rw [Flow.outcome, Flow.verdict]
    cases flow.ending with
    | closed =>
      have hclose := hkept.close Bytes.supplies
      dsimp only
      generalize last.close = closed at hclose
      obtain ⟨result, final⟩ := closed
      obtain rfl : result = .ok () := hclose
      rfl
    | broken fault sudden lasting => rfl
  · right
    subst hread
    exact ⟨hfew, rfl⟩

end ContentCoding
