import ContentCoding.Proofs.Frame

/-!
# What a chain of decoders gives

A reader gives data in pieces of its own choosing, but with room for a byte it
gives at least one as long as there are any, and none only at the end. A decoder
recovers data from encoded bytes if it gives the data in this way, whatever
pieces the encoded bytes come in and whatever room its own caller has.

The main statement is that a decompressor whose layers recover data one after
another delivers the data: every read is answered with the next bytes of it, and
with none after the last.
-/

namespace ContentCoding

universe u v

/-- With room for at least one byte so many bytes of the data may be given. -/
def Bytes.MayGive (data : Bytes) (room given : Nat) : Prop :=
  given ≤ room ∧ given ≤ data.length ∧ (data ≠ [] → 1 ≤ given)

/-- Of data that are waiting as many are given as there is room for. -/
theorem Bytes.mayGive_waiting {room : Nat} (hroom : 1 ≤ room) {output later : Bytes}
    (h : output = [] → later = []) :
    (output ++ later).MayGive room (min room output.length) ∧
      (output ++ later).take (min room output.length) = output.take room ∧
      (output ++ later).drop (min room output.length) = output.drop room ++ later := by
  have hle : min room output.length ≤ output.length := Nat.min_le_right _ _
  refine ⟨⟨Nat.min_le_left _ _, ?_, fun hne => ?_⟩, ?_, ?_⟩
  · rw [List.length_append]
    omega
  · have hsome : output ≠ [] := by
      rintro rfl
      exact hne (h rfl)
    have hlength := List.length_pos_iff.mpr hsome
    omega
  · rw [List.take_append_of_le_length hle, ← List.take_eq_take_min]
  · rw [List.drop_append_of_le_length hle, ← List.drop_eq_drop_min]

/-- The exchange asks for encoded bytes with room for at least one, whatever it is given of them.
What it ends with and what it has not asked for satisfy a condition. -/
def Pull.Consumes {α : Type u} (post : α → Bytes → Prop) : Pull α → Bytes → Prop
  | .done result, encoded => post result encoded
  | .read room next, encoded =>
    1 ≤ room ∧ ∀ given, Bytes.MayGive encoded room given →
      (next (.ok (encoded.take given))).Consumes post (encoded.drop given)
  | .remark _ next, encoded => next.Consumes post encoded

namespace Pull.Consumes

variable {α : Type u} {β : Type v}

/-- A weaker condition is satisfied as well. -/
theorem mono {post other : α → Bytes → Prop} (hpost : ∀ result rest,
    post result rest → other result rest) {pull : Pull α} {encoded : Bytes}
    (h : pull.Consumes post encoded) : pull.Consumes other encoded := by
  induction pull generalizing encoded with
  | done result => exact hpost result encoded h
  | read room next ih =>
    obtain ⟨hroom, hall⟩ := h
    exact ⟨hroom, fun given hg => ih _ (hall given hg)⟩
  | remark text next ih => exact ih h

/-- One exchange after another consumes what both consume in turn. -/
theorem bind {post : β → Bytes → Prop} {first : Pull α} {second : α → Pull β} {encoded : Bytes}
    (h : first.Consumes (fun result rest => (second result).Consumes post rest) encoded) :
    (first.bind second).Consumes post encoded := by
  induction first generalizing encoded with
  | done result => exact h
  | read room next ih =>
    obtain ⟨hroom, hall⟩ := h
    exact ⟨hroom, fun given hg => ih _ (hall given hg)⟩
  | remark text next ih => exact ih h

/-- Changing the result of an exchange changes nothing else. -/
theorem map {post : β → Bytes → Prop} {pull : Pull α} {f : α → β} {encoded : Bytes}
    (h : pull.Consumes (fun result rest => post (f result) rest) encoded) :
    (pull.map f).Consumes post encoded := bind h

end Pull.Consumes

/-- A reader in a world in which it offers data gives the next bytes of them, and is left with
the rest to offer. -/
structure Reader.Gives {W : Type v} (reader : Reader W) (offers : W → Bytes → Prop) : Prop where
  /-- With room for a byte some are given unless there are none. -/
  read : ∀ world data room, 1 ≤ room → offers world data →
    ∃ given, data.MayGive room given ∧ (reader.read world room).1 = .ok (data.take given) ∧
      offers (reader.read world room).2 (data.drop given)
  /-- Adding a line changes nothing about that. -/
  remark : ∀ world text data, offers world data → offers (reader.remark world text) data

/-- An exchange consumes what a reader offers. -/
theorem Pull.Consumes.run {W : Type v} {reader : Reader W} {offers : W → Bytes → Prop}
    (hr : reader.Gives offers) {α : Type u} {post : α → Bytes → Prop} {pull : Pull α}
    {encoded : Bytes} {world : W} (h : pull.Consumes post encoded) (ho : offers world encoded) :
    ∃ rest, post (pull.run reader world).1 rest ∧ offers (pull.run reader world).2 rest := by
  induction pull generalizing encoded world with
  | done result => exact ⟨encoded, h, ho⟩
  | read room next ih =>
    obtain ⟨hroom, hall⟩ := h
    obtain ⟨given, hgiven, hanswer, hnext⟩ := hr.read world encoded room hroom ho
    have hrest := ih _ (hall given hgiven) hnext
    rw [← hanswer] at hrest
    exact hrest
  | remark text next ih => exact ih h (hr.remark world text encoded ho)

namespace Decoder

variable (decoder : Decoder)

/-- A relation between states, encoded bytes and data, which every read respects: it gives the
next bytes of the data and leaves the rest related. -/
def Recovering (relates : decoder.State → Bytes → Bytes → Prop) : Prop :=
  ∀ state encoded data room, 1 ≤ room → relates state encoded data →
    (decoder.read state room).Consumes (fun result rest =>
      ∃ given, data.MayGive room given ∧ result.1 = .ok (data.take given) ∧
        relates result.2 rest (data.drop given)) encoded

/-- Whatever pieces the encoded bytes come in, a layer of this kind gives the data. -/
def Recovers (state : decoder.State) (encoded data : Bytes) : Prop :=
  ∃ relates, decoder.Recovering relates ∧ relates state encoded data

variable {decoder} {state : decoder.State} {encoded data : Bytes}

/-- A layer that recovers data gives the next bytes of them. -/
theorem Recovers.read (h : decoder.Recovers state encoded data) {room : Nat} (hroom : 1 ≤ room) :
    (decoder.read state room).Consumes (fun result rest =>
      ∃ given, data.MayGive room given ∧ result.1 = .ok (data.take given) ∧
        decoder.Recovers result.2 rest (data.drop given)) encoded := by
  obtain ⟨relates, hrecovering, hrel⟩ := h
  refine (hrecovering state encoded data room hroom hrel).mono ?_
  rintro result rest ⟨given, hgiven, hanswer, hnext⟩
  exact ⟨given, hgiven, hanswer, relates, hrecovering, hnext⟩

end Decoder

/-- A source of which a relation tells the bytes that it has left hands out at least one per
read until none are left. -/
def Source.Supplies {σ : Type} [Source σ] (holds : σ → Bytes → Prop) : Prop :=
  ∀ source data room, 1 ≤ room → holds source data →
    ∃ given, data.MayGive room given ∧ (Source.read source room).1 = .ok (data.take given) ∧
      holds (Source.read source room).2 (data.drop given)

/-- A byte string hands out its bytes. -/
theorem Bytes.supplies : Source.Supplies fun (rest : Bytes) data => rest = data := by
  rintro rest data room hroom rfl
  obtain ⟨hgiven, htake, hdrop⟩ := @mayGive_waiting room hroom rest [] fun _ => rfl
  rw [List.append_nil] at hgiven htake hdrop
  rw [List.append_nil] at hdrop
  exact ⟨_, hgiven, congrArg Except.ok htake.symm, hdrop.symm⟩

/-- An inlet gives what its source gives. -/
theorem Inlet.read_supplies {σ : Type} [Source σ] {holds : σ → Bytes → Prop}
    (hs : Source.Supplies holds) {inlet : Inlet σ} {data : Bytes} (h : holds inlet.source data)
    {room : Nat} (hroom : 1 ≤ room) :
    ∃ given, data.MayGive room given ∧ (inlet.read room).1 = .ok (data.take given) ∧
      holds (inlet.read room).2.source (data.drop given) := by
  obtain ⟨given, hgiven, hanswer, hnext⟩ := hs inlet.source data room hroom h
  rw [Inlet.read]
  generalize Source.read inlet.source room = answered at hanswer hnext
  obtain ⟨answer, source⟩ := answered
  cases hanswer
  exact ⟨given, hgiven, rfl, hnext⟩

namespace DecoderStack

/-- The layers recover data from encoded bytes one after another, from the bottom up. -/
def Restores : {depth : Nat} → DecoderStack depth → Bytes → Bytes → Prop
  | _, .bottom, encoded, data => data = encoded
  | _, .layer _ decoder state below, encoded, data =>
    ∃ between, Restores below encoded between ∧ decoder.Recovers state between data

variable {σ : Type} [Source σ]

/-- The layers restore data from the bytes that the source has left. -/
def Offers (holds : σ → Bytes → Prop) {depth : Nat} (world : DecoderStack depth × Inlet σ)
    (data : Bytes) : Prop :=
  ∃ encoded, holds world.2.source encoded ∧ Restores world.1 encoded data

variable {holds : σ → Bytes → Prop}

omit [Source σ] in
/-- A stack offers data if its top layer recovers them from what the rest offers. -/
theorem offers_layer {depth : Nat} {name : String} {decoder : Decoder} {state : decoder.State}
    {below : DecoderStack depth} {inlet : Inlet σ} {data : Bytes} :
    Offers holds (.layer name decoder state below, inlet) data ↔
      ∃ between, Offers holds (below, inlet) between ∧ decoder.Recovers state between data := by
  constructor
  · rintro ⟨encoded, hholds, between, hrestores, hrecovers⟩
    exact ⟨between, ⟨encoded, hholds, hrestores⟩, hrecovers⟩
  · rintro ⟨between, ⟨encoded, hholds, hrestores⟩, hrecovers⟩
    exact ⟨encoded, hholds, between, hrestores, hrecovers⟩

/-- A stack over a source that hands out something gives what it offers. -/
theorem reader_gives (hs : Source.Supplies holds) (depth : Nat) :
    (reader depth).Gives (Offers (σ := σ) holds) := by
  induction depth with
  | zero =>
    refine ⟨?_, fun _ _ _ h => h⟩
    rintro ⟨⟨⟩, inlet⟩ data room hroom ⟨encoded, hholds, rfl⟩
    obtain ⟨given, hgiven, hanswer, hnext⟩ := Inlet.read_supplies hs hholds hroom
    exact ⟨given, hgiven, hanswer, _, hnext, rfl⟩
  | succ depth ih =>
    refine ⟨?_, fun _ _ _ h => h⟩
    rintro ⟨⟨⟩, inlet⟩ data room hroom h
    obtain ⟨between, hbelow, hrecovers⟩ := offers_layer.mp h
    obtain ⟨rest, ⟨given, hgiven, hanswer, hnext⟩, hleft⟩ := (hrecovers.read hroom).run ih hbelow
    exact ⟨given, hgiven, hanswer, offers_layer.mpr ⟨rest, hleft, hnext⟩⟩

end DecoderStack

namespace DecoderRegistry

/-- Layers of the names, the first of them lowest, recover data from encoded bytes one after
another. Making a layer may consume some of the bytes. -/
def Recovers (registry : DecoderRegistry) : List String → Bytes → Bytes → Prop
  | [], encoded, data => data = encoded
  | name :: names, encoded, data =>
    ∃ between factory, registry.get? name = some factory ∧
      factory.Consumes (fun made rest => ∃ decoder state, made = .built decoder state ∧
        decoder.Recovers state rest between) encoded ∧
      registry.Recovers names between data

/-- Over the layers of some names those of others recover data from what comes out of them. -/
theorem recovers_append {registry : DecoderRegistry} {lower upper : List String}
    {encoded between data : Bytes} (hl : registry.Recovers lower encoded between)
    (hu : registry.Recovers upper between data) :
    registry.Recovers (lower ++ upper) encoded data := by
  induction lower generalizing encoded with
  | nil =>
    rw [Recovers] at hl
    exact hl ▸ hu
  | cons name lower ih =>
    obtain ⟨inner, factory, hfactory, hmakes, hrest⟩ := hl
    exact ⟨inner, factory, hfactory, hmakes, ih hrest⟩

variable {σ : Type} [Source σ] {holds : σ → Bytes → Prop}

/-- Realizing names puts layers on a stack that recover data from what it offers. -/
theorem realize_offers (hs : Source.Supplies holds) {registry : DecoderRegistry}
    {names : List String} {encoded data : Bytes} {chain : DecoderChain} {inlet : Inlet σ}
    (hr : registry.Recovers names encoded data)
    (ho : DecoderStack.Offers holds (chain.stack, inlet) encoded) :
    ∃ result, (Chain.realize registry names chain inlet).1 = .built result ∧
      DecoderStack.Offers holds
        (result.stack, (Chain.realize registry names chain inlet).2) data := by
  induction names generalizing chain encoded inlet with
  | nil =>
    rw [Recovers] at hr
    subst hr
    exact ⟨chain, rfl, ho⟩
  | cons name names ih =>
    obtain ⟨depth, stack, list⟩ := chain
    obtain ⟨between, factory, hfactory, hmakes, hrest⟩ := hr
    obtain ⟨rest, ⟨decoder, state, hmade, hrecovers⟩, hleft⟩ :=
      hmakes.run (DecoderStack.reader_gives hs depth) ho
    have hc : Medium.construct factory stack inlet =
        factory.run (DecoderStack.reader depth) (stack, inlet) := rfl
    simp only [Chain.realize, Registry.lookup, hfactory, hc]
    generalize factory.run (DecoderStack.reader depth) (stack, inlet) = made at hmade hleft
    obtain ⟨construction, below, after⟩ := made
    dsimp only at hmade
    subst hmade
    exact ih hrest (DecoderStack.offers_layer.mpr ⟨rest, hleft, hrecovers⟩)

end DecoderRegistry

namespace Decompressor

variable {σ : Type} [Source σ]

/-- Reads with given rooms are answered with the next bytes of the data, and with none once
there are none. -/
def Delivers : List Nat → Decompressor σ → Bytes → Prop
  | [], _, _ => True
  | room :: rooms, decompressor, data =>
    ∃ given, data.MayGive room given ∧ (decompressor.read room).1 = .done (data.take given) ∧
      Delivers rooms (decompressor.read room).2 (data.drop given)

variable {holds : σ → Bytes → Prop}

/-- The chain stands and offers data. -/
def Ready (holds : σ → Bytes → Prop) (decompressor : Decompressor σ) (data : Bytes) : Prop :=
  ∃ chain : DecoderChain, decompressor.guard = ⟨.built, none, .built chain⟩ ∧
    DecoderStack.Offers holds (chain.stack, decompressor.inlet) data

variable {decompressor : Decompressor σ} {data : Bytes} {room : Nat}

/-- Initializing leaves a decompressor with a chain alone. -/
theorem Ready.init (h : decompressor.Ready holds data) :
    decompressor.init = (.done (), decompressor) := by
  obtain ⟨chain, hguard, -⟩ := h
  obtain ⟨order, registry, guard, inlet⟩ := decompressor
  cases hguard
  rfl

/-- A read is answered with the next bytes of the data. -/
theorem Ready.read (hs : Source.Supplies holds) (h : decompressor.Ready holds data)
    (hroom : 1 ≤ room) :
    ∃ given, data.MayGive room given ∧ (decompressor.read room).1 = .done (data.take given) ∧
      (decompressor.read room).2.Ready holds (data.drop given) := by
  have hinit := h.init
  obtain ⟨chain, hguard, hoffers⟩ := h
  obtain ⟨given, hgiven, hanswer, hnext⟩ :=
    (DecoderStack.reader_gives hs chain.depth).read _ data room hroom hoffers
  have hchain : (DecoderChain.read room chain decompressor.inlet).1 = .ok (data.take given) :=
    hanswer
  simp only [read_eq, hinit, readBuilt_of_built (congrArg InitGuard.state hguard), hchain]
  exact ⟨given, hgiven, rfl, (DecoderChain.read room chain decompressor.inlet).2.1,
    by rw [hguard], hnext⟩

/-- A decompressor that offers data delivers them. -/
theorem Ready.delivers (hs : Source.Supplies holds) {rooms : List Nat}
    (hrooms : ∀ room ∈ rooms, 1 ≤ room) (h : decompressor.Ready holds data) :
    Delivers rooms decompressor data := by
  induction rooms generalizing decompressor data with
  | nil => trivial
  | cons room rooms ih =>
    obtain ⟨hroom, hlater⟩ := List.forall_mem_cons.mp hrooms
    obtain ⟨given, hgiven, hanswer, hnext⟩ := h.read hs hroom
    exact ⟨given, hgiven, hanswer, ih hlater hnext⟩

/-- A new decompressor whose layers recover data offers them once it is initialized. -/
theorem init_ready (hs : Source.Supplies holds) {registry : DecoderRegistry} {order : List String}
    {encoded : Bytes} {source : σ}
    (hr : registry.Recovers (order.filter (· != "")) encoded data) (hsource : holds source encoded) :
    (create source registry order).init.1 = .done () ∧
      (create source registry order).init.2.Ready holds data := by
  have hbase : DecoderStack.Offers holds
      ((Stack.bottom : DecoderStack 0), ({ source } : Inlet σ)) encoded := ⟨encoded, hsource, rfl⟩
  obtain ⟨chain, hbuilt, hoffers⟩ :=
    @DecoderRegistry.realize_offers σ _ holds hs registry _ encoded data ⟨0, .bottom, []⟩ { source }
      hr hbase
  simp only [Decompressor.init, create, InitGuard.start, InitGuard.initWith, InitGuard.settled,
    construct, Chain.build]
  generalize Chain.realize registry (order.filter (· != "")) (⟨0, .bottom, []⟩ : DecoderChain)
    ({ source } : Inlet σ) = realized at hbuilt hoffers
  obtain ⟨building, inlet⟩ := realized
  dsimp only at hbuilt
  subst hbuilt
  exact ⟨rfl, chain, rfl, hoffers⟩

/-- A decompressor that initializes well reads what the initialized one reads. -/
theorem read_of_init (hinit : decompressor.init.1 = .done ())
    (h : decompressor.init.2.Ready holds data) (room : Nat) :
    decompressor.read room = decompressor.init.2.read room := by
  rw [read_eq, read_eq, h.init, hinit]

/-- A new decompressor whose layers recover data delivers them. -/
theorem create_delivers (hs : Source.Supplies holds) {registry : DecoderRegistry}
    {order : List String} {encoded : Bytes} {source : σ}
    (hr : registry.Recovers (order.filter (· != "")) encoded data) (hsource : holds source encoded)
    {rooms : List Nat} (hrooms : ∀ room ∈ rooms, 1 ≤ room) :
    Delivers rooms (create source registry order) data := by
  obtain ⟨hinit, hready⟩ := init_ready hs hr hsource
  cases rooms with
  | nil => trivial
  | cons room rooms =>
    have hdelivers := hready.delivers hs hrooms
    rw [Delivers] at hdelivers ⊢
    rw [read_of_init hinit hready]
    exact hdelivers

/-- What is delivered in reads of all rooms is delivered in the reads behind one of any room. -/
theorem delivers_after (h : ∀ rooms, (∀ room ∈ rooms, 1 ≤ room) → Delivers rooms decompressor data)
    (hroom : 1 ≤ room) :
    ∃ given, data.MayGive room given ∧ (decompressor.read room).1 = .done (data.take given) ∧
      ∀ rooms, (∀ room ∈ rooms, 1 ≤ room) →
        Delivers rooms (decompressor.read room).2 (data.drop given) := by
  obtain ⟨given, hgiven, hanswer, -⟩ := h [room] (List.forall_mem_singleton.mpr hroom)
  refine ⟨given, hgiven, hanswer, fun rooms hrooms => ?_⟩
  obtain ⟨other, -, hsame, hnext⟩ := h (room :: rooms) (List.forall_mem_cons.mpr ⟨hroom, hrooms⟩)
  rw [hanswer] at hsame
  injection hsame with htake
  have hdrop : data.drop other = data.drop given := by
    have hcut := (List.take_append_drop other data).trans (List.take_append_drop given data).symm
    rwa [htake, List.append_cancel_left_eq] at hcut
  rwa [hdrop] at hnext

/-- Reading to the end of a stream that is delivered gives the data, whatever the sizes of the reads
are, if there are enough of them for a byte in each and for the end. -/
theorem readToEndFor_of_delivers {attempts : Nat} (sizes : ReadSizes) {pieces : List Bytes}
    (h : ∀ rooms, (∀ room ∈ rooms, 1 ≤ room) → Delivers rooms decompressor data)
    (hle : data.length < attempts) :
    (readToEndFor attempts sizes decompressor pieces).1 =
      .done (pieces.reverse.flatten ++ data) := by
  induction attempts generalizing sizes decompressor data pieces with
  | zero => omega
  | succ attempts ih =>
    obtain ⟨given, ⟨-, hlen, hsome⟩, hanswer, hnext⟩ := delivers_after h sizes.next_pos
    simp only [readToEndFor]
    generalize decompressor.read sizes.next = answered at hanswer hnext
    obtain ⟨answer, after⟩ := answered
    dsimp only at hanswer
    subst hanswer
    cases hpiece : data.take given with
    | nil =>
      have hnone : data = [] := by
        by_contra hne
        have htaken := hsome hne
        rw [List.take_eq_nil_iff] at hpiece
        exact hpiece.elim (by omega) hne
      rw [hnone, List.append_nil]
    | cons byte bytes =>
      have hcut := List.take_append_drop given data
      have hlength := congrArg List.length hcut
      rw [hpiece, List.length_append, List.length_cons] at hlength
      have hrest := @ih _ _ (sizes.after (byte :: bytes).length) ((byte :: bytes) :: pieces) hnext
        (by omega)
      rw [hpiece] at hcut
      simp only [hrest, List.reverse_cons, List.flatten_append, List.flatten_cons,
        List.flatten_nil, List.append_nil, List.append_assoc, hcut]

/-- Reading to the end fails if the first read fails for good. -/
theorem readToEnd_of_failed {sizes : ReadSizes} {fault : Fault}
    (h : (decompressor.read sizes.next).1 = .failed fault) (hfault : fault.isInterruption = false)
    (attempts : Nat) :
    (decompressor.readToEnd (attempts + 1) sizes).1 = .failed fault := by
  rw [readToEnd, readToEndFor]
  generalize decompressor.read sizes.next = answered at h
  obtain ⟨answer, after⟩ := answered
  obtain rfl : answer = .failed fault := h
  simp only [hfault, Bool.false_eq_true, if_false]

end Decompressor

end ContentCoding
