import ContentCoding.OneShot
import ContentCoding.Proofs.Lifecycle

/-!
# One-shot, eager and lazy coding agree

The chain of a pipeline may be built before anything else happens, by the first
write or read, or by a close that finds nothing built. An error of building then
reaches the caller in three ways: by itself, wrapped in the fault of a write or
read and unwrapped again, or from the close. `writeOut` and `readOut` are what a
one-shot call does with a pipeline, and the statements compare doing it at once
with doing it after the chain has been built.

What makes the ways agree is that initializing twice is initializing once, that
an error survives the crossing into a fault and back, and that the errors of
building are none that a loop would try again.
-/

namespace ContentCoding

section Building

variable {K : Type 1} {S : K → Type} {F : Type 1} {P : Type} [Medium S F P]

/-- An error of building says that a name is unknown or that its layer could not be made. -/
theorem Chain.realize_failed (registry : Registry F) (names : List String) (chain : Chain S)
    (port : P) {error : PipelineError}
    (h : (Chain.realize registry names chain port).1 = .failed error) :
    (∃ index name, error = .unsupported index name) ∨
      ∃ index name source, error = .construction index name source := by
  induction names generalizing chain port with
  | nil => cases h
  | cons name names ih =>
    obtain ⟨depth, stack, built⟩ := chain
    rw [Chain.realize, Registry.lookup] at h
    cases hfactory : registry.get? name with
    | none =>
      rw [hfactory] at h
      exact .inl ⟨built.length, name, (Building.failed.inj h).symm⟩
    | some factory =>
      rw [hfactory] at h
      dsimp only at h
      rcases hmade : Medium.construct factory stack port with ⟨made, below, after⟩
      rw [hmade] at h
      cases made with
      | built kind state => exact ih _ _ h
      | refused fault => exact .inr ⟨built.length, name, fault, (Building.failed.inj h).symm⟩
      | crashed => cases h

/-- No error of building is an interruption, so a loop that meets one does not go on. -/
theorem Chain.build_not_interruption (registry : Registry F) (order : List String)
    (base : Stack S 0) (port : P) {error : PipelineError}
    (h : (Chain.build registry order base port).1 = .failed error) :
    error.toFault.isInterruption = false := by
  rcases Chain.realize_failed _ _ _ _ h with ⟨index, name, rfl⟩ | ⟨index, name, source, rfl⟩
  · simp only [Fault.isInterruption, PipelineError.kind_toFault, PipelineError.kind]
    rfl
  · simp only [Fault.isInterruption, PipelineError.kind_toFault, PipelineError.kind]
    rfl

end Building

namespace Compressor

variable {σ : Type} [Sink σ]

/-- Write everything and close. The fault of a write becomes a pipeline error. -/
def writeOut (patience : Nat) (bytes : Bytes) (compressor : Compressor σ) :
    Outcome PipelineError Unit × Compressor σ :=
  match compressor.writeAll patience bytes with
  | (.failed fault, compressor) => (.failed fault.toPipelineError, compressor)
  | (.crashed, compressor) => (.crashed, compressor)
  | (.done (), compressor) => compressor.close

/-- Build the chain, and go on with the compressor if that succeeds. -/
def whenBuilt (compressor : Compressor σ)
    (next : Compressor σ → Outcome PipelineError Unit × Compressor σ) :
    Outcome PipelineError Unit × Compressor σ :=
  match compressor.init with
  | (.done (), compressor) => next compressor
  | unbuilt => unbuilt

variable {sink : σ} {registry : EncoderRegistry} {order : List String} {stage : Stage}
variable {compressor : Compressor σ}

/-- The prospect of a failed building names no interruption. -/
theorem prospect_not_interruption {error : PipelineError}
    (h : prospect sink registry order = .failed error) :
    error.toFault.isInterruption = false := by
  rw [prospect, construct] at h
  rcases hb : Chain.build registry order (.bottom : EncoderStack 0) ({ sink } : Outlet σ) with
    ⟨building, outlet⟩
  rw [hb] at h
  cases building with
  | built chain => cases h
  | failed other =>
    cases h
    exact Chain.build_not_interruption _ _ _ _ (by rw [hb])
  | crashed => cases h

/-- A compressor whose chain has been built is left as it is by another initialization. -/
theorem At.init_of_built {names : List String}
    (h : At sink registry order (.built names) compressor) :
    compressor.init = (.done (), compressor) :=
  Prod.ext h.init.1 (h.init_eq_self (by simp))

/-- Where there is nothing to write, writing everything out is closing. -/
theorem writeOut_nil (patience : Nat) (compressor : Compressor σ) :
    compressor.writeOut patience [] = compressor.close := by
  simp only [writeOut, writeAll, writeAllFor]

/-- A fresh compressor whose building succeeds is written out like the one it becomes. -/
theorem At.writeOut_of_built (h : At sink registry order .fresh compressor) {names : List String}
    (hp : prospect sink registry order = .built names) (patience : Nat) (bytes : Bytes) :
    compressor.writeOut patience bytes = compressor.init.2.writeOut patience bytes := by
  obtain ⟨hanswer, hsettled⟩ := h.init
  rw [hp] at hanswer hsettled
  have hinit : compressor.init = compressor.init.2.init := by
    rw [hsettled.init_of_built]
    exact Prod.ext hanswer rfl
  cases bytes with
  | nil =>
    have hstands : Stage.fresh.settle (prospect sink registry order) = .built names := by
      rw [hp]
      rfl
    have hfirst := h.close_eq_finish hstands
    have hlater := hsettled.close_eq_finish (hp ▸ hstands)
    rw [hsettled.init_of_built] at hlater
    rw [writeOut_nil, writeOut_nil, hfirst, hlater]
  | cons byte rest =>
    have hwrite : compressor.write (byte :: rest) = compressor.init.2.write (byte :: rest) := by
      rw [write_eq, write_eq, ← hinit]
    simp only [writeOut, writeAll, List.length_cons, Nat.succ_add, writeAllFor, hwrite]

/-- A fresh compressor whose building fails gives that error, however much there is to be
written, and the caller's sink is as the building leaves it. -/
theorem At.writeOut_of_failed (h : At sink registry order .fresh compressor)
    {error : PipelineError} (hp : prospect sink registry order = .failed error)
    (patience : Nat) (bytes : Bytes) :
    (compressor.writeOut patience bytes).1 = .failed error ∧
      (compressor.writeOut patience bytes).2.outlet = compressor.init.2.outlet := by
  have hanswer := h.init.1
  rw [hp] at hanswer
  cases bytes with
  | nil =>
    have hclose : Reply.status compressor.close.1 = .status (.failed error) := by
      have hfollows := h.close.1
      rwa [hp] at hfollows
    rw [writeOut_nil]
    exact ⟨Reply.status.inj hclose, h.close_outlet (by rw [hp]; rfl)⟩
  | cons byte rest =>
    have hagain := prospect_not_interruption hp
    have hwrite : compressor.write (byte :: rest) =
        (.failed error.toFault, compressor.init.2) := by
      rw [write_eq, hanswer]
      rfl
    simp only [writeOut, writeAll, List.length_cons, Nat.succ_add, writeAllFor, hwrite, hagain]
    exact ⟨rfl, rfl⟩

/-- A fresh compressor whose factory breaks off breaks off too. -/
theorem At.writeOut_of_crashed (h : At sink registry order .fresh compressor)
    (hp : prospect sink registry order = .crashed) (patience : Nat) (bytes : Bytes) :
    (compressor.writeOut patience bytes).1 = .crashed ∧
      (compressor.writeOut patience bytes).2.outlet = compressor.init.2.outlet := by
  have hanswer := h.init.1
  rw [hp] at hanswer
  cases bytes with
  | nil =>
    have hclose : Reply.status compressor.close.1 = .status .crashed := by
      have hfollows := h.close.1
      rwa [hp] at hfollows
    rw [writeOut_nil]
    exact ⟨Reply.status.inj hclose, h.close_outlet (by rw [hp]; rfl)⟩
  | cons byte rest =>
    have hwrite : compressor.write (byte :: rest) = (.crashed, compressor.init.2) := by
      rw [write_eq, hanswer]
      rfl
    simp only [writeOut, writeAll, List.length_cons, Nat.succ_add, writeAllFor, hwrite, and_self]

/-- Whether the chain of a fresh compressor is built first or when it is needed, writing
everything out has the same outcome, and leaves the same sink, totals and journal. -/
theorem At.writeOut_eager (h : At sink registry order .fresh compressor) (patience : Nat)
    (bytes : Bytes) :
    (compressor.whenBuilt (writeOut patience bytes)).1 = (compressor.writeOut patience bytes).1 ∧
      (compressor.whenBuilt (writeOut patience bytes)).2.outlet =
        (compressor.writeOut patience bytes).2.outlet := by
  have hanswer := h.init.1
  cases hp : prospect sink registry order with
  | built names =>
    have heq : compressor.init = (.done (), compressor.init.2) :=
      Prod.ext (by rw [hanswer, hp]; rfl) rfl
    rw [whenBuilt, heq, h.writeOut_of_built hp]
    exact ⟨rfl, rfl⟩
  | failed error =>
    obtain ⟨hout, hkept⟩ := h.writeOut_of_failed hp patience bytes
    have heq : compressor.init = (.failed error, compressor.init.2) :=
      Prod.ext (by rw [hanswer, hp]; rfl) rfl
    rw [hout, hkept, whenBuilt, heq]
    exact ⟨rfl, rfl⟩
  | crashed =>
    obtain ⟨hout, hkept⟩ := h.writeOut_of_crashed hp patience bytes
    have heq : compressor.init = (.crashed, compressor.init.2) :=
      Prod.ext (by rw [hanswer, hp]; rfl) rfl
    rw [hout, hkept, whenBuilt, heq]
    exact ⟨rfl, rfl⟩

end Compressor

namespace Decompressor

variable {σ : Type} [Source σ]

/-- Read everything and close. The fault of a read becomes a pipeline error. -/
def readOut (attempts : Nat) (sizes : ReadSizes) (decompressor : Decompressor σ) :
    Outcome PipelineError Bytes × Decompressor σ :=
  match decompressor.readToEnd attempts sizes with
  | (.failed fault, decompressor) => (.failed fault.toPipelineError, decompressor)
  | (.crashed, decompressor) => (.crashed, decompressor)
  | (.done bytes, decompressor) =>
    match decompressor.close with
    | (.error error, decompressor) => (.failed error, decompressor)
    | (.ok (), decompressor) => (.done bytes, decompressor)

/-- Build the chain, and go on with the decompressor if that succeeds. -/
def whenBuilt (decompressor : Decompressor σ)
    (next : Decompressor σ → Outcome PipelineError Bytes × Decompressor σ) :
    Outcome PipelineError Bytes × Decompressor σ :=
  match decompressor.init with
  | (.done (), decompressor) => next decompressor
  | (.failed error, decompressor) => (.failed error, decompressor)
  | (.crashed, decompressor) => (.crashed, decompressor)

variable {source : σ} {registry : DecoderRegistry} {order : List String} {stage : Stage}
variable {decompressor : Decompressor σ}

/-- The prospect of a failed building names no interruption. -/
theorem prospect_not_interruption {error : PipelineError}
    (h : prospect source registry order = .failed error) :
    error.toFault.isInterruption = false := by
  rw [prospect, construct] at h
  rcases hb : Chain.build registry order (.bottom : DecoderStack 0) ({ source } : Inlet σ) with
    ⟨building, inlet⟩
  rw [hb] at h
  cases building with
  | built chain => cases h
  | failed other =>
    cases h
    exact Chain.build_not_interruption _ _ _ _ (by rw [hb])
  | crashed => cases h

/-- Where building succeeds, a read answers alike before and after it. -/
theorem At.read_init {names : List String} (h : At source registry order .fresh decompressor)
    (hp : prospect source registry order = .built names) (room : Nat) :
    decompressor.init.2.read room = decompressor.read room := by
  obtain ⟨hanswer, hsettled⟩ := h.init
  rw [hp] at hanswer hsettled
  have hinit : decompressor.init.2.init = decompressor.init := by
    rw [Prod.ext_iff, hsettled.init_eq_self (Stage.settle_ne_fresh _ _), hsettled.init.1, hanswer]
    exact ⟨rfl, rfl⟩
  rw [read_eq, read_eq, hinit]

/-- Whether the chain of a fresh decompressor is built first or by the first read, reading
everything out has the same outcome, and leaves the same source, totals and journal. -/
theorem At.readOut_eager (h : At source registry order .fresh decompressor) (attempts : Nat)
    (sizes : ReadSizes) :
    decompressor.whenBuilt (readOut (attempts + 1) sizes) =
      decompressor.readOut (attempts + 1) sizes := by
  have hanswer := h.init.1
  cases hp : prospect source registry order with
  | built names =>
    have heq : decompressor.init = (.done (), decompressor.init.2) :=
      Prod.ext (by rw [hanswer, hp]; rfl) rfl
    rw [whenBuilt, heq]
    simp only [readOut, readToEnd, readToEndFor, h.read_init hp]
  | failed error =>
    have heq : decompressor.init = (.failed error, decompressor.init.2) :=
      Prod.ext (by rw [hanswer, hp]; rfl) rfl
    have hread : decompressor.read sizes.next =
        (.failed error.toFault, decompressor.init.2) := by
      rw [read_eq, hanswer, hp]
      rfl
    have hagain := prospect_not_interruption hp
    rw [whenBuilt, heq]
    simp only [readOut, readToEnd, readToEndFor, hread, hagain]
    rfl
  | crashed =>
    have heq : decompressor.init = (.crashed, decompressor.init.2) :=
      Prod.ext (by rw [hanswer, hp]; rfl) rfl
    have hread : decompressor.read sizes.next = (.crashed, decompressor.init.2) := by
      rw [read_eq, hanswer, hp]
      rfl
    rw [whenBuilt, heq]
    simp only [readOut, readToEnd, readToEndFor, hread]

end Decompressor

/-- The encoded data that an array has taken, if everything went well. -/
def Compressor.encoded : Outcome PipelineError Unit × Compressor (Array UInt8) →
    Outcome PipelineError Bytes
  | (.done (), compressor) => .done compressor.outlet.sink.toList
  | (.failed error, _) => .failed error
  | (.crashed, _) => .crashed

/-- The encoded data depends on the outcome and the outlet only. -/
theorem Compressor.encoded_congr
    {first second : Outcome PipelineError Unit × Compressor (Array UInt8)}
    (hout : first.1 = second.1) (hkept : first.2.outlet = second.2.outlet) :
    encoded first = encoded second := by
  obtain ⟨outcome, compressor⟩ := first
  obtain ⟨_, other⟩ := second
  cases hout
  cases outcome with
  | done value =>
    exact congrArg (fun outlet : Outlet (Array UInt8) => Outcome.done outlet.sink.toList) hkept
  | failed error => rfl
  | crashed => rfl

/-- Encode with a compressor that builds its chain when it is needed: by the first write, or
by the close if there is nothing to write. -/
def compressLazily (patience : Nat) (registry : EncoderRegistry) (order : List String)
    (data : Bytes) : Outcome PipelineError Bytes :=
  Compressor.encoded ((Compressor.create #[] registry order).writeOut patience data)

/-- Decode with a decompressor that builds its chain with the first read. -/
def decompressLazily (attempts : Nat) (sizes : ReadSizes) (registry : DecoderRegistry)
    (order : List String) (data : Bytes) : Outcome PipelineError Bytes :=
  ((Decompressor.create data registry order).readOut attempts sizes).1

/-- One-shot encoding builds the chain, writes everything and closes. -/
theorem compress_eq_whenBuilt (patience : Nat) (registry : EncoderRegistry) (order : List String)
    (data : Bytes) :
    compress patience registry order data =
      Compressor.encoded ((Compressor.create #[] registry order).whenBuilt
        (Compressor.writeOut patience data)) := by
  rw [compress, Compressor.openOn, Compressor.whenBuilt]
  rcases (Compressor.create (#[] : Array UInt8) registry order).init with ⟨_ | _ | _, opened⟩
  · dsimp only
    rw [Compressor.writeOut]
    rcases opened.writeAll patience data with ⟨_ | _ | _, written⟩
    · dsimp only
      rcases written.close with ⟨_ | _ | _, closed⟩ <;> rfl
    · rfl
    · rfl
  · rfl
  · rfl

/-- One-shot decoding builds the chain, reads everything and closes. -/
theorem decompressFrom_eq_whenBuilt {σ : Type} [Source σ] (attempts : Nat) (sizes : ReadSizes)
    (registry : DecoderRegistry) (order : List String) (source : σ) :
    decompressFrom attempts sizes registry order source =
      let out := (Decompressor.create source registry order).whenBuilt
        (Decompressor.readOut attempts sizes)
      (out.1, out.2.inlet) := by
  rw [decompressFrom, Decompressor.openOn, Decompressor.whenBuilt]
  rcases (Decompressor.create source registry order).init with ⟨_ | _ | _, opened⟩
  · dsimp only
    rw [Decompressor.readOut]
    rcases opened.readToEnd attempts sizes with ⟨bytes | _ | _, read⟩
    · dsimp only
      rcases read.close with ⟨_ | _, closed⟩ <;> rfl
    · rfl
    · rfl
  · rfl
  · rfl

/-- One-shot, eager and lazy coding agree: whatever the registries, the orders and the data
are, and wherever a building, a write, a read or a close fails, the outcome is the same. A
caller that reads to the end makes at least one read, so its budget is a successor; the sizes of
its reads may be any. -/
theorem oneShot_eq_lazy :
    (∀ (patience : Nat) (registry : EncoderRegistry) (order : List String) (data : Bytes),
      compress patience registry order data = compressLazily patience registry order data) ∧
    (∀ (attempts : Nat) (sizes : ReadSizes) (registry : DecoderRegistry) (order : List String)
        (data : Bytes),
      decompress (attempts + 1) sizes registry order data =
        decompressLazily (attempts + 1) sizes registry order data) := by
  constructor
  · intro patience registry order data
    obtain ⟨hout, hkept⟩ :=
      (Compressor.at_create (#[] : Array UInt8) registry order).writeOut_eager patience data
    rw [compress_eq_whenBuilt, compressLazily]
    exact Compressor.encoded_congr hout hkept
  · intro attempts sizes registry order data
    rw [decompress, decompressFrom_eq_whenBuilt,
      (Decompressor.at_create data registry order).readOut_eager, decompressLazily]

end ContentCoding
