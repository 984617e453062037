import ContentCoding.Proofs.Lifecycle

/-!
# How much a reader can give

A decoder that finds no output in what it has read reads on, as long as its patience lasts, and then
reports an interruption of its own. That does not happen if its patience exceeds the number of
bytes that the reader below can give, for each of its reads takes one of them at least.

An allowance is a bound of that number. A decoder turns an allowance below it into one above it if
it gives no more bytes than that, whatever pieces the bytes below come in. The main statement is
that a stack over a source with an allowance has one, and is never short of patience.
-/

namespace ContentCoding

universe u v

/-- A read is answered out of an allowance, of which a rest is left. If all is calm below, patience
is not what it lacks. -/
def Spends (calm : Prop) (allowance rest : Nat) : Except Fault Bytes → Prop
  | .ok bytes => bytes.length + rest ≤ allowance
  | .error fault => (calm → fault ≠ .bare .interrupted) ∧ rest ≤ allowance

/-- An allowance is left of a larger one as well. -/
theorem Spends.mono {calm : Prop} {below above rest : Nat} {answer : Except Fault Bytes}
    (h : Spends calm below rest answer) (hle : below ≤ above) : Spends calm above rest answer := by
  cases answer with
  | ok bytes => exact Nat.le_trans h hle
  | error fault => exact ⟨h.1, Nat.le_trans h.2 hle⟩

/-- The exchange reads out of an allowance, whatever it is answered. What it ends with and the
rest of the allowance satisfy a condition. -/
def Pull.Spends {α : Type u} (calm : Prop) (post : α → Nat → Prop) : Pull α → Nat → Prop
  | .done result, allowance => post result allowance
  | .read _ next, allowance => ∀ answer rest,
    ContentCoding.Spends calm allowance rest answer → (next answer).Spends calm post rest
  | .remark _ next, allowance => next.Spends calm post allowance

/-- A reader in a world in which it has an allowance answers out of it. -/
structure Reader.Spends {W : Type v} (calm : Prop) (reader : Reader W) (has : W → Nat → Prop) :
    Prop where
  /-- A read leaves a rest. -/
  read : ∀ world allowance room, has world allowance →
    ∃ rest, ContentCoding.Spends calm allowance rest (reader.read world room).1 ∧
      has (reader.read world room).2 rest
  /-- Adding a line changes nothing about that. -/
  remark : ∀ world text allowance, has world allowance → has (reader.remark world text) allowance

/-- A weaker condition is satisfied as well. -/
theorem Pull.Spends.mono {calm : Prop} {α : Type u} {post other : α → Nat → Prop}
    (hpost : ∀ result rest, post result rest → other result rest) {pull : Pull α} {allowance : Nat}
    (h : pull.Spends calm post allowance) : pull.Spends calm other allowance := by
  induction pull generalizing allowance with
  | done result => exact hpost result allowance h
  | read room next ih => exact fun answer rest hspends => ih answer (h answer rest hspends)
  | remark text next ih => exact ih h

/-- An exchange spends what a reader has. -/
theorem Pull.Spends.run {calm : Prop} {W : Type v} {reader : Reader W} {has : W → Nat → Prop}
    (hr : reader.Spends calm has) {α : Type u} {post : α → Nat → Prop} {pull : Pull α}
    {allowance : Nat} {world : W} (h : pull.Spends calm post allowance) (hw : has world allowance) :
    ∃ rest, post (pull.run reader world).1 rest ∧ has (pull.run reader world).2 rest := by
  induction pull generalizing allowance world with
  | done result => exact ⟨allowance, h, hw⟩
  | read room next ih =>
    obtain ⟨rest, hspends, hleft⟩ := hr.read world allowance room hw
    exact ih _ (h _ rest hspends) hleft
  | remark text next ih => exact ih h (hr.remark world text allowance hw)

namespace Decoder

variable (decoder : Decoder)

/-- A relation between states, allowances below and allowances above, which every read respects. -/
def Spending (relates : decoder.State → Nat → Nat → Prop) : Prop :=
  ∀ (calm : Prop) state below above room, relates state below above →
    (decoder.read state room).Spends calm (fun result left =>
      ∃ rest, Spends calm above rest result.1 ∧ relates result.2 left rest) below

/-- Out of an allowance below it a layer in a state gives no more than the one above it. -/
def Allows (state : decoder.State) (below above : Nat) : Prop :=
  ∃ relates, decoder.Spending relates ∧ relates state below above

variable {decoder} {state : decoder.State} {below above : Nat}

/-- A read leaves a rest of what is allowed above. -/
theorem Allows.read (h : decoder.Allows state below above) (calm : Prop) (room : Nat) :
    (decoder.read state room).Spends calm (fun result left =>
      ∃ rest, Spends calm above rest result.1 ∧ decoder.Allows result.2 left rest) below := by
  obtain ⟨relates, hspending, hrel⟩ := h
  refine (hspending calm state below above room hrel).mono ?_
  intro result left ⟨rest, hspends, hnext⟩
  exact ⟨rest, hspends, relates, hspending, hnext⟩

end Decoder

/-- A source of which a relation tells an allowance hands out no more than that. If it is to be
calm, it does not interrupt reads. -/
def Source.Lasts {σ : Type} [Source σ] (calm : Prop) (holds : σ → Nat → Prop) : Prop :=
  ∀ source allowance room, holds source allowance →
    ∃ rest, Spends calm allowance rest (Source.read source room).1 ∧
      holds (Source.read source room).2 rest

/-- A byte string hands out its bytes. -/
theorem Bytes.lasts (calm : Prop) :
    Source.Lasts calm fun (source : Bytes) allowance => source.length ≤ allowance := by
  intro source allowance room hsource
  refine ⟨(source.drop room).length, ?_, Nat.le_refl _⟩
  have hle : (source.take room).length + (source.drop room).length ≤ allowance := by
    rw [← List.length_append, List.take_append_drop]
    exact hsource
  exact hle

namespace DecoderStack

/-- Out of an allowance below it a stack gives no more than the one above it. -/
def Allows : {depth : Nat} → DecoderStack depth → Nat → Nat → Prop
  | _, .bottom, below, above => above = below
  | _, .layer _ decoder state stack, below, above =>
    ∃ between, Allows stack below between ∧ decoder.Allows state between above

variable {σ : Type} [Source σ]

/-- A stack over an inlet has an allowance. -/
def Has (holds : σ → Nat → Prop) {depth : Nat} (world : DecoderStack depth × Inlet σ)
    (allowance : Nat) : Prop :=
  ∃ below, holds world.2.source below ∧ Allows world.1 below allowance

variable {holds : σ → Nat → Prop}

omit [Source σ] in
/-- It has one if its top layer turns the one of the layers below into that. -/
theorem has_layer {depth : Nat} {name : String} {decoder : Decoder} {state : decoder.State}
    {below : DecoderStack depth} {inlet : Inlet σ} {allowance : Nat} :
    Has holds (.layer name decoder state below, inlet) allowance ↔
      ∃ between, Has holds (below, inlet) between ∧ decoder.Allows state between allowance := by
  constructor
  · intro ⟨source, hholds, between, hbelow, hallows⟩
    exact ⟨between, ⟨source, hholds, hbelow⟩, hallows⟩
  · intro ⟨between, ⟨source, hholds, hbelow⟩, hallows⟩
    exact ⟨source, hholds, between, hbelow, hallows⟩

/-- A stack over a source that lasts answers out of its allowance. -/
theorem reader_spends {calm : Prop} (hs : Source.Lasts calm holds) (depth : Nat) :
    (reader (σ := σ) depth).Spends calm (Has holds) := by
  induction depth with
  | zero =>
    refine ⟨?_, fun _ _ _ h => h⟩
    intro ⟨stack, inlet⟩ allowance room ⟨below, hholds, hallows⟩
    cases stack
    obtain rfl : allowance = below := hallows
    obtain ⟨rest, hspends, hnext⟩ := hs inlet.source allowance room hholds
    have hread : Spends calm allowance rest (inlet.read room).1 ∧
        holds (inlet.read room).2.source rest := by
      rw [Inlet.read]
      generalize Source.read inlet.source room = answered at hspends hnext
      obtain ⟨_ | _, after⟩ := answered
      · exact ⟨hspends, hnext⟩
      · exact ⟨hspends, hnext⟩
    exact ⟨rest, hread.1, rest, hread.2, rfl⟩
  | succ depth ih =>
    refine ⟨?_, fun _ _ _ h => h⟩
    intro ⟨stack, inlet⟩ allowance room h
    cases stack with
    | layer name decoder state below =>
      obtain ⟨between, hbelow, hallows⟩ := has_layer.mp h
      obtain ⟨left, ⟨rest, hspends, hnext⟩, hleft⟩ := (hallows.read calm room).run ih hbelow
      exact ⟨rest, hspends, has_layer.mpr ⟨left, hleft, hnext⟩⟩

end DecoderStack

end ContentCoding
