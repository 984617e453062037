import ContentCoding.Proofs.Allowance
import ContentCoding.Proofs.Frame
import ContentCoding.Proofs.Simulation
import Mathlib.Order.Iterate

/-!
# Reading on after a fault

A source may fail a read and go on as if nothing had been. A caller that makes the read again then
should miss nothing, however deep the stack is and wherever in a read of its top the fault came up.
That takes layers that hand on a fault at once, and that read on from where they were: what such a
layer does when it is read again is what it would have done without the fault.

Reading again starts with new patience. So it may get further than the first read would have, and a
layer that lacks patience below is no one to compare with. Hence all is stated for stacks over
streams with an allowance.

The step is `Decompressor.Resumable.read`: a read over a failing source is answered as over the
stream itself, or with the next fault, and then a read over the stream itself comes to what it would
have come to before. A persistent caller makes a read again as long as it fails in this way, and the
main statement, `Decompressor.Resumable.replies_insist`, is on any run of reads of such a caller.
-/

namespace ContentCoding

universe u v w

/-- A source that fails in between. Each read takes an entry off the schedule: a fault that it
reports and leaves the stream alone, or none, and then it is answered by the stream. So are all
reads after the last entry. -/
structure Failing (σ : Type) where
  /-- The stream. -/
  stream : σ
  /-- What becomes of the next reads. -/
  schedule : List (Option Fault)

namespace Failing

variable {σ : Type}

/-- The faults to come. -/
def due (source : Failing σ) : List Fault := source.schedule.filterMap id

variable [Source σ]

/-- A read that is answered by the stream. -/
def pass (stream : σ) (schedule : List (Option Fault)) (room : Nat) :
    Except Fault Bytes × Failing σ :=
  let (answer, stream) := Source.read stream room
  (answer, { stream, schedule })

instance : Source (Failing σ) where
  read source room :=
    match source.schedule with
    | some fault :: schedule => (.error fault, { source with schedule })
    | none :: schedule => pass source.stream schedule room
    | [] => pass source.stream [] room

end Failing

/-! ### Exchanges that may be made again -/

namespace Pull

variable {S : Type}

/-- The patient exchange goes the same way as the hasty one, which ends early at most for lack of
patience. -/
def OutlastedBy : (hasty patient : Pull (Except Fault Bytes × S)) → Prop
  | .done result, patient => result.1 = .error (.bare .interrupted) ∨ patient = .done result
  | .read room next, patient =>
    ∃ other, patient = .read room other ∧ ∀ answer, OutlastedBy (next answer) (other answer)
  | .remark text next, patient => ∃ other, patient = .remark text other ∧ OutlastedBy next other

/-- An exchange that hands on a fault of the reader below at once. Making the exchange again in the
state that it leaves then is going on, with no less patience. -/
def Resumes (again : S → Pull (Except Fault Bytes × S)) : Pull (Except Fault Bytes × S) → Prop
  | .done _ => True
  | .read room next =>
    (∀ fault, ∃ state, next (.error fault) = .done (.error fault, state) ∧
      OutlastedBy (.read room next) (again state)) ∧
    ∀ bytes, (next (.ok bytes)).Resumes again
  | .remark _ _ => False

/-- An exchange that reads goes on with the answer. -/
theorem run_read {α : Type u} {W : Type v} (reader : Reader W) (room : Nat)
    (next : Except Fault Bytes → Pull α) (world : W) :
    (Pull.read room next).run reader world =
      (next (reader.read world room).1).run reader (reader.read world room).2 := rfl

/-- An exchange outlasts itself. -/
theorem outlastedBy_self (pull : Pull (Except Fault Bytes × S)) : pull.OutlastedBy pull := by
  induction pull with
  | done result => exact .inr rfl
  | read room next ih => exact ⟨next, rfl, ih⟩
  | remark text next ih => exact ⟨next, rfl, ih⟩

variable {again : S → Pull (Except Fault Bytes × S)} {room : Nat}
variable {next : Except Fault Bytes → Pull (Except Fault Bytes × S)}

/-- What follows an answer may be made again as well. -/
theorem Resumes.answered (h : (Pull.read room next).Resumes again) (answer : Except Fault Bytes) :
    (next answer).Resumes again := by
  obtain ⟨hfaults, hbytes⟩ := h
  cases answer with
  | ok bytes => exact hbytes bytes
  | error fault =>
    obtain ⟨state, hdone, -⟩ := hfaults fault
    rw [hdone]
    trivial

/-- If the exchange does not lack patience its first read does not. -/
theorem Resumes.calm (h : (Pull.read room next).Resumes again) {W : Type v} {reader : Reader W}
    {world : W}
    (hcalm : ((Pull.read room next).run reader world).1.1 ≠ .error (.bare .interrupted)) :
    (reader.read world room).1 ≠ .error (.bare .interrupted) := by
  intro hlacks
  obtain ⟨state, hdone, -⟩ := h.1 (.bare .interrupted)
  rw [Pull.run_read, hlacks, hdone] at hcalm
  exact hcalm rfl

/-- If the hasty exchange does not lack patience the patient one comes to the same. -/
theorem OutlastedBy.run {W : Type v} {reader : Reader W}
    {hasty patient : Pull (Except Fault Bytes × S)} (h : hasty.OutlastedBy patient) {world : W}
    (hcalm : (hasty.run reader world).1.1 ≠ .error (.bare .interrupted)) :
    patient.run reader world = hasty.run reader world := by
  induction hasty generalizing patient world with
  | done result =>
    cases h with
    | inl hlacks => exact absurd hlacks hcalm
    | inr hsame => rw [hsame]
  | read room next ih =>
    obtain ⟨other, hsame, hall⟩ := h
    rw [hsame]
    exact ih _ (hall _) hcalm
  | remark text next ih =>
    obtain ⟨other, hsame, hother⟩ := h
    rw [hsame]
    exact ih hother hcalm

end Pull

/-- What an answer has to do with the one that there would be in the world that is left if the
faults to come are cleared away. -/
inductive Resumes {A : Type u} {V : Type v} {W : Type w} (fail : Fault → A) (clear : V → W)
    (due : V → List Fault) (ask : W → A × W) (before : V) : A × V → Prop
  /-- It is the same. -/
  | undisturbed {answer : A} {after : V} (same : ask (clear before) = (answer, clear after))
      (kept : due after = due before) : Resumes fail clear due ask before (answer, after)
  /-- It is the next fault. Asking again comes to what asking would have come to before. -/
  | fails {fault : Fault} {after : V} (again : ask (clear after) = ask (clear before))
      (taken : due before = fault :: due after) :
      Resumes fail clear due ask before (fail fault, after)

/-- Reads of a failing reader have to do with those of a plain one in this way, unless these lack
patience. -/
structure Reader.Resumes {V : Type v} {W : Type w} (failing : Reader V) (plain : Reader W)
    (clear : V → W) (due : V → List Fault) (ready : V → Prop) : Prop where
  /-- A read is answered alike, or may be made again. -/
  read : ∀ world room, ready world →
    (plain.read (clear world) room).1 ≠ .error (.bare .interrupted) →
    ContentCoding.Resumes .error clear due (fun world => plain.read world room) world
      (failing.read world room)
  /-- So it goes on. -/
  keeps : failing.Keeps ready

/-- An exchange that may be made again comes to the same over a failing reader, or to the next
fault, and then making it again comes to what it would have come to before. -/
theorem Pull.Resumes.run {V : Type v} {W : Type w} {failing : Reader V} {plain : Reader W}
    {clear : V → W} {due : V → List Fault} {ready : V → Prop}
    (hr : failing.Resumes plain clear due ready) {S : Type}
    {again : S → Pull (Except Fault Bytes × S)} {pull : Pull (Except Fault Bytes × S)}
    (h : pull.Resumes again) {world : V} (hw : ready world)
    (hcalm : (pull.run plain (clear world)).1.1 ≠ .error (.bare .interrupted)) :
    (pull.run plain (clear world) =
        ((pull.run failing world).1, clear (pull.run failing world).2) ∧
      due (pull.run failing world).2 = due world) ∨
    ∃ fault state, (pull.run failing world).1 = (.error fault, state) ∧
      due world = fault :: due (pull.run failing world).2 ∧
      (again state).run plain (clear (pull.run failing world).2) =
        pull.run plain (clear world) := by
  induction pull generalizing world with
  | done result => exact .inl ⟨rfl, rfl⟩
  | remark text next ih => cases h
  | read room next ih =>
    have hstep := hr.read world room hw (h.calm hcalm)
    have hready := hr.keeps.read world room hw
    rw [Pull.run_read] at hcalm ⊢
    rw [Pull.run_read]
    generalize failing.read world room = step at hstep hready
    cases hstep with
    | @undisturbed answer after same kept =>
      rw [same] at hcalm ⊢
      rw [← kept]
      exact ih answer (h.answered answer) hready hcalm
    | @fails fault after same taken =>
      obtain ⟨state, hdone, hagain⟩ := h.1 fault
      have hread : (Pull.read room next).run plain (clear after) =
          (next (plain.read (clear world) room).1).run plain (plain.read (clear world) room).2 := by
        rw [Pull.run_read, same]
      have hstate : (again state).run plain (clear after) =
          (Pull.read room next).run plain (clear after) := by
        refine hagain.run ?_
        rw [hread]
        exact hcalm
      refine .inr ⟨fault, state, ?_, ?_, ?_⟩
      · rw [hdone]
        rfl
      · rw [hdone]
        exact taken
      · rw [hdone]
        exact hstate.trans hread

section Sources

variable {σ : Type} [Source σ]

/-- A failing source answers as its stream does, or with the next fault. -/
theorem Failing.read_resumes (source : Failing σ) (room : Nat) :
    Resumes .error Failing.stream Failing.due (fun stream => Source.read stream room) source
      (Source.read source room) := by
  obtain ⟨stream, schedule⟩ := source
  cases schedule with
  | nil => exact .undisturbed rfl rfl
  | cons entry schedule =>
    cases entry with
    | none => exact .undisturbed rfl rfl
    | some fault => exact .fails rfl rfl

/-- So does an inlet over one. -/
theorem Inlet.read_resumes (inlet : Inlet (Failing σ)) (room : Nat) :
    Resumes .error (Inlet.map Failing.stream) (fun inlet => inlet.source.due)
      (fun inlet => inlet.read room) inlet (inlet.read room) := by
  have hsource := Failing.read_resumes inlet.source room
  simp only [Inlet.read]
  generalize Source.read inlet.source room = answered at hsource
  cases hsource with
  | @undisturbed answer after same kept =>
    cases answer with
    | ok bytes =>
      refine .undisturbed ?_ kept
      simp only [Inlet.map, same]
    | error fault =>
      refine .undisturbed ?_ kept
      simp only [Inlet.map, same]
  | @fails fault after same taken =>
    refine .fails ?_ taken
    simp only [Inlet.map, same]

/-- It has the allowance of its stream, though it is not calm. -/
theorem Failing.lasts {holds : σ → Nat → Prop} (hs : Source.Lasts True holds) :
    Source.Lasts False fun (source : Failing σ) => holds source.stream := by
  intro source allowance room hsource
  obtain ⟨stream, schedule⟩ := source
  obtain ⟨rest, hspends, hnext⟩ := hs stream allowance room hsource
  have hpass : Spends False allowance rest (Source.read stream room).1 := by
    generalize (Source.read stream room).1 = answer at hspends
    cases answer with
    | ok bytes => exact hspends
    | error fault => exact ⟨False.elim, hspends.2⟩
  cases schedule with
  | nil => exact ⟨rest, hpass, hnext⟩
  | cons entry schedule =>
    cases entry with
    | none => exact ⟨rest, hpass, hnext⟩
    | some fault => exact ⟨allowance, ⟨False.elim, Nat.le_refl _⟩, hsource⟩

end Sources

/-- In every state a read of the layer may be made again. -/
def Decoder.Resumes (decoder : Decoder) : Prop :=
  ∀ state room, (decoder.read state room).Resumes fun state => decoder.read state room

namespace DecoderStack

/-- Reads of all layers may be made again. -/
def Resuming {depth : Nat} (stack : DecoderStack depth) : Prop :=
  ∀ entry ∈ stack.shape, entry.2.Resumes

/-- These are the top layer and the layers below it. -/
theorem resuming_layer {depth : Nat} {name : String} {decoder : Decoder} {state : decoder.State}
    {below : DecoderStack depth} :
    Resuming (.layer name decoder state below) ↔ decoder.Resumes ∧ below.Resuming := by
  constructor
  · intro h
    refine ⟨h (name, decoder) (List.mem_append_right _ (List.mem_singleton.mpr rfl)), ?_⟩
    intro entry hentry
    exact h entry (List.mem_append_left _ hentry)
  · intro ⟨hdecoder, hbelow⟩ entry hentry
    cases List.mem_append.mp hentry with
    | inl hold => exact hbelow entry hold
    | inr hnew =>
      rw [List.mem_singleton.mp hnew]
      exact hdecoder

variable {σ : Type} [Source σ]

/-- Reading leaves the layers of the same kinds. -/
theorem reader_keeps_resuming (depth : Nat) :
    (reader depth).Keeps fun world : DecoderStack depth × Inlet σ => world.1.Resuming := by
  refine ⟨fun world room h => ?_, fun world text h => ?_⟩
  · have hshape := (reader_keeps_shape depth world.1.shape).read world room rfl
    rw [Resuming, hshape]
    exact h
  · have hshape := (reader_keeps_shape depth world.1.shape).remark world text rfl
    rw [Resuming, hshape]
    exact h

/-- The stack over the stream itself. -/
def clear {depth : Nat} (world : DecoderStack depth × Inlet (Failing σ)) :
    DecoderStack depth × Inlet σ :=
  (world.1, world.2.map Failing.stream)

omit [Source σ] in
/-- The faults that its source has still to report. -/
def due {depth : Nat} (world : DecoderStack depth × Inlet (Failing σ)) : List Fault :=
  world.2.source.due

/-- Reading a stack runs its top layer over the rest. -/
theorem reader_read_layer {depth : Nat} (name : String) (decoder : Decoder)
    (state : decoder.State) (below : DecoderStack depth × Inlet σ) (room : Nat) :
    (reader (depth + 1)).read (.layer name decoder state below.1, below.2) room =
      ((((decoder.read state room).run (reader depth) below).1).1,
        .layer name decoder (((decoder.read state room).run (reader depth) below).1).2
          ((decoder.read state room).run (reader depth) below).2.1,
        ((decoder.read state room).run (reader depth) below).2.2) := rfl

/-- A stack whose layers may be read again answers as over the stream itself, or with the next
fault, and then reading it again comes to what reading it would have come to before. -/
theorem reader_resumes (depth : Nat) :
    (reader (σ := Failing σ) depth).Resumes (reader depth) clear due fun world =>
      world.1.Resuming := by
  induction depth with
  | zero =>
    refine ⟨?_, reader_keeps_resuming 0⟩
    intro ⟨stack, inlet⟩ room hw hcalm
    have hinlet := Inlet.read_resumes inlet room
    have hread : (reader 0).read (stack, inlet) room =
        ((inlet.read room).1, stack, (inlet.read room).2) := rfl
    rw [hread]
    generalize inlet.read room = answered at hinlet
    cases hinlet with
    | @undisturbed answer after same kept =>
      refine .undisturbed ?_ kept
      exact congrArg (fun answered => (answered.1, stack, answered.2)) same
    | @fails fault after same taken =>
      refine .fails ?_ taken
      exact congrArg (fun answered => (answered.1, stack, answered.2)) same
  | succ depth ih =>
    refine ⟨?_, reader_keeps_resuming (depth + 1)⟩
    intro ⟨stack, inlet⟩ room hw hcalm
    cases stack with
    | layer name decoder state below =>
      obtain ⟨hdecoder, hbelow⟩ := resuming_layer.mp hw
      have hready : (fun world : DecoderStack depth × Inlet (Failing σ) => world.1.Resuming)
          (below, inlet) := hbelow
      have hrun := Pull.Resumes.run ih (hdecoder state room) hready hcalm
      rw [reader_read_layer name decoder state (below, inlet) room]
      generalize (decoder.read state room).run (reader depth) (below, inlet) = ran at hrun
      obtain ⟨⟨answer, next⟩, under, left⟩ := ran
      cases hrun with
      | inl hsame =>
        obtain ⟨hanswer, hkept⟩ := hsame
        have hsame := reader_read_layer name decoder state (clear (below, inlet)) room
        rw [hanswer] at hsame
        exact .undisturbed hsame hkept
      | inr hfails =>
        obtain ⟨fault, after, hanswer, htaken, hagain⟩ := hfails
        cases hanswer
        have hsame := reader_read_layer name decoder next (clear (under, left)) room
        rw [hagain] at hsame
        have hbefore := reader_read_layer name decoder state (clear (below, inlet)) room
        exact .fails (hsame.trans hbefore.symm) htaken

end DecoderStack

/-! ### Making layers that may be read again -/

/-- The factory refuses, or makes a layer that may be read again. If that has more patience than
bytes are allowed below it, it gives no more than a bound tells. -/
def DecoderFactory.Resumes (most : Nat → Nat) (patience : Nat) (factory : DecoderFactory) : Prop :=
  (∃ fault, factory = .refusing fault) ∨
    ∃ (decoder : Decoder) (state : decoder.State), factory = .always decoder state ∧
      decoder.Resumes ∧ ∀ below < patience, decoder.Allows state below (most below)

/-- A chain that is built may be read again, and turns an allowance of the source into one of its
own. -/
def Building.Resuming (source : Nat) : Building DecoderChain → Prop
  | .built chain => DecoderStack.Resuming chain.stack ∧
      ∃ above, DecoderStack.Allows chain.stack source above
  | .failed _ => True
  | .crashed => False

/-- Nothing happens to an inlet when decoding layers are destroyed. -/
theorem DecoderStack.teardown_eq {τ : Type} [Source τ] {depth : Nat} (stack : DecoderStack depth)
    (inlet : Inlet τ) : stack.teardown inlet = inlet := by
  induction depth with
  | zero => cases stack; rfl
  | succ depth ih =>
    cases stack with
    | layer name decoder state below => exact ih below

/-- Such factories make the same layers over any inlet, and do nothing to it. -/
theorem Chain.realize_resuming {most : Nat → Nat} (hmost : ∀ bytes, bytes ≤ most bytes)
    {patience : Nat} {registry : DecoderRegistry} {names : List String}
    (hnames : ∀ name ∈ names, ∀ factory, registry.get? name = some factory →
      factory.Resumes most patience)
    {chain : DecoderChain} {source between : Nat}
    (hallows : DecoderStack.Allows chain.stack source between)
    (hresuming : DecoderStack.Resuming chain.stack)
    (hpatience : most^[names.length] between < patience) :
    ∃ building : Building DecoderChain, building.Resuming source ∧
      ∀ {τ : Type} [Source τ] (inlet : Inlet τ),
        Chain.realize registry names chain inlet = (building, inlet) := by
  induction names generalizing chain between with
  | nil => exact ⟨.built chain, ⟨hresuming, between, hallows⟩, fun _ => rfl⟩
  | cons name rest ih =>
    obtain ⟨depth, stack, list⟩ := chain
    cases hget : registry.get? name with
    | none =>
      refine ⟨.failed (.unsupported list.length name), trivial, fun inlet => ?_⟩
      simp only [realize, Registry.lookup, hget, DecoderStack.teardown_eq]
    | some factory =>
      cases hnames name List.mem_cons_self factory hget with
      | inl hrefuses =>
        obtain ⟨fault, rfl⟩ := hrefuses
        refine ⟨.failed (.construction list.length name fault), trivial, fun inlet => ?_⟩
        have hmade : ∀ {τ : Type} [Source τ] (inlet : Inlet τ),
            Medium.construct (DecoderFactory.refusing fault) stack inlet =
              (.refused fault, stack, inlet) := fun _ => rfl
        simp only [realize, Registry.lookup, hget, hmade, DecoderStack.teardown_eq]
      | inr hmakes =>
        obtain ⟨decoder, state, rfl, hdecoder, hbound⟩ := hmakes
        have hlarger : ∀ layers bytes, bytes ≤ most^[layers] bytes := by
          intro layers
          exact Function.id_le_iterate_of_id_le hmost layers
        have hbelow : between < patience :=
          Nat.lt_of_le_of_lt (hlarger _ between) hpatience
        obtain ⟨building, hbuilding, hrealize⟩ := @ih
          (fun name hname => hnames name (List.mem_cons_of_mem _ hname))
          ⟨depth + 1, .layer name decoder state stack, list ++ [name]⟩ (most between)
          ⟨between, hallows, hbound between hbelow⟩
          (DecoderStack.resuming_layer.mpr ⟨hdecoder, hresuming⟩) hpatience
        refine ⟨building, hbuilding, fun inlet => ?_⟩
        have hmade : ∀ {τ : Type} [Source τ] (inlet : Inlet τ),
            Medium.construct (DecoderFactory.always decoder state) stack inlet =
              (.built decoder state, stack, inlet) := fun _ => rfl
        simp only [realize, Registry.lookup, hget, hmade, hrealize]

namespace Decompressor

variable {σ : Type} [Source σ]

omit [Source σ] in
/-- The decompressor over the stream itself. -/
def clear (decompressor : Decompressor (Failing σ)) : Decompressor σ :=
  decompressor.map Failing.stream

omit [Source σ] in
/-- The faults that its source has still to report. -/
def due (decompressor : Decompressor (Failing σ)) : List Fault := decompressor.inlet.source.due

omit [Source σ] in
/-- A new decompressor over a failing source is one over the stream itself. -/
theorem clear_create (stream : σ) (schedule : List (Option Fault)) (registry : DecoderRegistry)
    (order : List String) :
    (create (⟨stream, schedule⟩ : Failing σ) registry order).clear =
      create stream registry order := rfl

omit [Source σ] in
/-- All faults of the schedule are still to be reported. -/
theorem due_create (stream : σ) (schedule : List (Option Fault)) (registry : DecoderRegistry)
    (order : List String) :
    (create (⟨stream, schedule⟩ : Failing σ) registry order).due = schedule.filterMap id := rfl

omit [Source σ] in
/-- The decompressor whose chain is a stack over an inlet. -/
def ofStack (order : List String) (registry : DecoderRegistry) (names : List String) {depth : Nat}
    (world : DecoderStack depth × Inlet σ) : Decompressor σ :=
  ⟨order, registry, ⟨.built, none, .built ⟨depth, world.1, names⟩⟩, world.2⟩

/-- A read is the stack's, and what it gives is counted. -/
theorem readBuilt_ofStack (order : List String) (registry : DecoderRegistry) (names : List String)
    {depth : Nat} (world : DecoderStack depth × Inlet σ) (room : Nat) :
    (ofStack order registry names world).readBuilt room =
      (((DecoderStack.reader depth).read world room).1,
        ofStack order registry names (((DecoderStack.reader depth).read world room).2.1,
          ((DecoderStack.reader depth).read world room).2.2.credit
            ((DecoderStack.reader depth).read world room).1)) := rfl

/-- A chain stands whose layers may be read again, and it has an allowance. -/
def Standing (holds : σ → Nat → Prop) (decompressor : Decompressor (Failing σ)) : Prop :=
  ∃ (order : List String) (registry : DecoderRegistry) (names : List String) (depth : Nat)
    (world : DecoderStack depth × Inlet (Failing σ)) (allowance : Nat),
    decompressor = ofStack order registry names world ∧ world.1.Resuming ∧
      DecoderStack.Has (fun source : Failing σ => holds source.stream) world allowance

variable {holds : σ → Nat → Prop} {decompressor : Decompressor (Failing σ)}

/-- Over the stream itself a read of the chain never lacks patience. -/
theorem Standing.calm (hs : Source.Lasts True holds) (h : decompressor.Standing holds)
    (room : Nat) : (decompressor.clear.readBuilt room).1 ≠ .error (.bare .interrupted) := by
  obtain ⟨order, registry, names, depth, world, allowance, rfl, -, hhas⟩ := h
  obtain ⟨rest, hspends, -⟩ := (DecoderStack.reader_spends hs depth).read
    (DecoderStack.clear world) allowance room hhas
  have hread : ((ofStack order registry names world).clear.readBuilt room).1 =
      ((DecoderStack.reader depth).read (DecoderStack.clear world) room).1 := rfl
  intro hlacks
  rw [← hread, hlacks] at hspends
  exact hspends.1 trivial rfl

/-- A read of the chain may be made again, and leaves the chain standing. -/
theorem Standing.readBuilt (hs : Source.Lasts True holds) (h : decompressor.Standing holds)
    (room : Nat) :
    Resumes .error clear due (fun decompressor => decompressor.readBuilt room) decompressor
        (decompressor.readBuilt room) ∧
      (decompressor.readBuilt room).2.Standing holds := by
  have hcalm := h.calm hs room
  obtain ⟨order, registry, names, depth, world, allowance, rfl, hresuming, hhas⟩ := h
  have hstep := (DecoderStack.reader_resumes depth).read world room hresuming hcalm
  have hkept := (DecoderStack.reader_keeps_resuming depth).read world room hresuming
  obtain ⟨rest, -, hleft⟩ := (DecoderStack.reader_spends (Failing.lasts hs) depth).read world
    allowance room hhas
  have hclear : ∀ (world : DecoderStack depth × Inlet (Failing σ)),
      (ofStack order registry names world).clear =
        ofStack order registry names (DecoderStack.clear world) := fun _ => rfl
  rw [readBuilt_ofStack]
  generalize (DecoderStack.reader depth).read world room = answered at hstep hkept hleft
  obtain ⟨answer, stack, inlet⟩ := answered
  have hsource : (inlet.credit answer).source = inlet.source := by cases answer <;> rfl
  constructor
  · cases hstep with
    | undisturbed same kept =>
      refine .undisturbed ?_ ?_
      · rw [hclear, readBuilt_ofStack, same]
        cases answer <;> rfl
      · rw [due, ofStack, hsource]
        exact kept
    | fails again taken =>
      refine .fails ?_ taken
      rw [hclear, hclear, readBuilt_ofStack, readBuilt_ofStack]
      exact congrArg (fun answered => (answered.1, ofStack order registry names
        (answered.2.1, answered.2.2.credit answered.1))) again
  · refine ⟨order, registry, names, depth, (stack, inlet.credit answer), rest, rfl, hkept, ?_⟩
    obtain ⟨below, hholds, hallows⟩ := hleft
    refine ⟨below, ?_, hallows⟩
    rw [hsource]
    exact hholds

/-- What initializing has come to: a chain stands, or there is none for good. -/
inductive Settled (holds : σ → Nat → Prop) :
    Outcome PipelineError Unit → Decompressor (Failing σ) → Prop
  /-- A chain stands. -/
  | standing {decompressor : Decompressor (Failing σ)} (standing : decompressor.Standing holds) :
      Settled holds (.done ()) decompressor
  /-- An entry of the order could not be realized. -/
  | refused {order : List String} {registry : DecoderRegistry} {error : PipelineError}
      {inlet : Inlet (Failing σ)} :
      Settled holds (.failed error) ⟨order, registry, ⟨.failed, some error, .failed⟩, inlet⟩

/-- Initializing the decompressor, if that has not been done yet, comes to the same as over the
stream itself, and what stands then may be read again. -/
def Resumable (holds : σ → Nat → Prop) (decompressor : Decompressor (Failing σ)) : Prop :=
  ∃ outcome settled, decompressor.init = (outcome, settled) ∧
    decompressor.clear.init = (outcome, settled.clear) ∧ settled.due = decompressor.due ∧
    Settled holds outcome settled

/-- Initializing again changes nothing. -/
theorem Settled.resumable {outcome : Outcome PipelineError Unit}
    (h : Settled holds outcome decompressor) : decompressor.Resumable holds := by
  cases h with
  | standing standing =>
    obtain ⟨order, registry, names, depth, world, allowance, rfl, hrest⟩ := standing
    exact ⟨.done (), _, rfl, rfl, rfl, .standing ⟨_, _, _, _, world, allowance, rfl, hrest⟩⟩
  | refused => exact ⟨_, _, rfl, rfl, rfl, .refused⟩

/-- Once initializing has led to a chain, a read is one of the chain. -/
theorem read_of_init_done {τ : Type} [Source τ] {before after : Decompressor τ}
    (h : before.init = (.done (), after)) (room : Nat) :
    before.read room = (.ofExcept (after.readBuilt room).1, (after.readBuilt room).2) := by
  rw [read_eq, h]

/-- Over the stream itself a read never lacks patience. -/
theorem Resumable.calm (hs : Source.Lasts True holds) (h : decompressor.Resumable holds)
    (room : Nat) : (decompressor.clear.read room).1 ≠ .failed (.bare .interrupted) := by
  obtain ⟨outcome, settled, -, hclear, -, hsettled⟩ := h
  cases hsettled with
  | @refused order registry error inlet =>
    rw [read_eq, hclear]
    exact fun hlacks => nomatch Outcome.failed.inj hlacks
  | standing standing =>
    have hcalm := standing.calm hs room
    rw [read_of_init_done hclear]
    generalize (settled.clear.readBuilt room).1 = answer at hcalm
    cases answer with
    | ok bytes => exact nofun
    | error fault => exact fun hlacks => hcalm (congrArg Except.error (Outcome.failed.inj hlacks))

/-- A read may be made again, and it stays so. -/
theorem Resumable.read (hs : Source.Lasts True holds) (h : decompressor.Resumable holds)
    (room : Nat) :
    Resumes .failed clear due (fun decompressor => decompressor.read room) decompressor
        (decompressor.read room) ∧
      (decompressor.read room).2.Resumable holds := by
  obtain ⟨outcome, settled, hinit, hclear, hdue, hsettled⟩ := h
  cases hsettled with
  | refused =>
    have hread := decompressor.clear.read_eq room
    rw [hclear] at hread
    rw [read_eq, hinit]
    exact ⟨.undisturbed hread hdue, Settled.refused.resumable⟩
  | standing standing =>
    obtain ⟨hstep, hleft⟩ := standing.readBuilt hs room
    rw [read_of_init_done hinit]
    refine ⟨?_, (Settled.standing hleft).resumable⟩
    obtain ⟨order, registry, names, depth, world, allowance, hleft, -⟩ := hleft
    generalize settled.readBuilt room = answered at hstep hleft
    cases hstep with
    | @undisturbed answer after same kept =>
      refine .undisturbed ?_ (kept.trans hdue)
      rw [read_of_init_done hclear, same]
    | @fails fault after again taken =>
      have hafter : after.clear.init = (.done (), after.clear) := by
        rw [show after = ofStack order registry names world from hleft]
        rfl
      refine .fails ?_ (hdue.symm.trans taken)
      rw [read_of_init_done hafter, read_of_init_done hclear, again]

/-- A new decompressor may be read again if its factories make layers that may, with patience enough
for what comes of the bytes of the stream. -/
theorem create_resumable {most : Nat → Nat} (hmost : ∀ bytes, bytes ≤ most bytes) {patience : Nat}
    {registry : DecoderRegistry} {order : List String}
    (hnames : ∀ name ∈ order.filter (· != ""), ∀ factory, registry.get? name = some factory →
      factory.Resumes most patience)
    {stream : σ} {allowance : Nat} (hstream : holds stream allowance)
    (hpatience : most^[(order.filter (· != "")).length] allowance < patience)
    (schedule : List (Option Fault)) :
    (create (⟨stream, schedule⟩ : Failing σ) registry order).Resumable holds := by
  obtain ⟨building, hbuilding, hrealize⟩ := @Chain.realize_resuming most hmost patience registry
    (order.filter (· != "")) hnames ⟨0, .bottom, []⟩ allowance allowance rfl nofun hpatience
  have hconstruct : ∀ {τ : Type} [Source τ] (inlet : Inlet τ),
      Chain.build registry order .bottom inlet = (building, inlet) := hrealize
  have hinit : ∀ {τ : Type} [Source τ] (source : τ), (create source registry order).init =
      match building with
      | .built chain => (.done (), ofStack order registry chain.names (chain.stack,
          { source, counters := Counters.setLayers {} chain.names.length }))
      | .failed error =>
        (.failed error, ⟨order, registry, ⟨.failed, some error, .failed⟩, { source }⟩)
      | .crashed => (.crashed, ⟨order, registry, ⟨.unbuilt, none, .failed⟩, { source }⟩) := by
    intro τ _ source
    simp only [init, create, InitGuard.start, InitGuard.initWith, InitGuard.settled, construct,
      hconstruct]
    cases building <;> rfl
  cases building with
  | built chain =>
    obtain ⟨hresuming, above, hallows⟩ := hbuilding
    refine ⟨.done (), _, hinit _, hinit stream, rfl, .standing ?_⟩
    exact ⟨order, registry, chain.names, chain.depth, _, above, rfl, hresuming, allowance, hstream,
      hallows⟩
  | failed error => exact ⟨.failed error, _, hinit _, hinit stream, rfl, .refused⟩
  | crashed => cases hbuilding

/-! ### A persistent caller -/

/-- Make a read, and make it again as long as the source has failed during it. The answers of the
reads that failed so are kept. -/
def insist (decompressor : Decompressor (Failing σ)) (room : Nat) :
    (List (Outcome Fault Bytes) × Outcome Fault Bytes) × Decompressor (Failing σ) :=
  if _h : (decompressor.read room).2.due.length < decompressor.due.length then
    let later := insist (decompressor.read room).2 room
    (((decompressor.read room).1 :: later.1.1, later.1.2), later.2)
  else (([], (decompressor.read room).1), (decompressor.read room).2)
termination_by decompressor.due.length

/-- A persistent caller is given what a read of the stream itself gives, after some of the faults to
come. -/
theorem Resumable.insist (hs : Source.Lasts True holds) {decompressor : Decompressor (Failing σ)}
    (h : decompressor.Resumable holds) (room : Nat) :
    ∃ raised : List Fault,
      (decompressor.insist room).1.1 = raised.map .failed ∧
      decompressor.clear.read room =
        ((decompressor.insist room).1.2, (decompressor.insist room).2.clear) ∧
      decompressor.due = raised ++ (decompressor.insist room).2.due ∧
      (decompressor.insist room).2.Resumable holds := by
  obtain ⟨hstep, hready⟩ := h.read hs room
  rw [Decompressor.insist]
  generalize decompressor.read room = answered at hstep hready
  cases hstep with
  | @undisturbed answer after same kept =>
    have hlast : ¬after.due.length < decompressor.due.length := by rw [kept]; omega
    rw [dif_neg hlast]
    exact ⟨[], rfl, same, kept.symm, hready⟩
  | @fails fault after again taken =>
    have hless : after.due.length < decompressor.due.length := by rw [taken]; simp
    rw [dif_pos hless]
    obtain ⟨raised, hfailed, hsame, hdue, hfinal⟩ := Resumable.insist hs hready room
    refine ⟨fault :: raised, ?_, again.symm.trans hsame, ?_, hfinal⟩
    · rw [List.map_cons, ← hfailed]
    · rw [taken, hdue, List.cons_append]
termination_by decompressor.due.length

/-- All reads of a persistent caller together are given what the reads of the stream itself give,
none of which lacks patience, and the failed ones the faults in the order in which they come. In the
end the decompressor is as it would be over the stream itself. -/
theorem Resumable.replies_insist (hs : Source.Lasts True holds) (h : decompressor.Resumable holds)
    (rooms : List Nat) :
    ∃ raised : List Fault,
      (replies Decompressor.insist decompressor rooms).map Prod.snd =
        replies Decompressor.read decompressor.clear rooms ∧
      .failed (.bare .interrupted) ∉ replies Decompressor.read decompressor.clear rooms ∧
      (replies Decompressor.insist decompressor rooms).flatMap Prod.fst = raised.map .failed ∧
      decompressor.due = raised ++ (serve Decompressor.insist decompressor rooms).due ∧
      (serve Decompressor.insist decompressor rooms).clear =
        serve Decompressor.read decompressor.clear rooms := by
  induction rooms generalizing decompressor with
  | nil => exact ⟨[], rfl, List.not_mem_nil, rfl, rfl, rfl⟩
  | cons room rooms ih =>
    obtain ⟨first, hfailed, hsame, hdue, hready⟩ := h.insist hs room
    obtain ⟨later, hanswers, hcalm, hfaults, hleft, hfinal⟩ := ih hready
    refine ⟨first ++ later, ?_, ?_, ?_, ?_, ?_⟩
    · simp only [replies, List.map_cons, hanswers, hsame]
    · intro hlacks
      cases List.mem_cons.mp hlacks with
      | inl hfirst => exact h.calm hs room hfirst.symm
      | inr hrest =>
        rw [hsame] at hrest
        exact hcalm hrest
    · simp only [replies, List.flatMap_cons, hfaults, hfailed, List.map_append]
    · rw [hdue, hleft, List.append_assoc]
      simp only [serve, List.foldl_cons]
    · simp only [serve, List.foldl_cons] at hfinal ⊢
      rw [hfinal, hsame]

end Decompressor

end ContentCoding
