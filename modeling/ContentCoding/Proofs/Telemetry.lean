import ContentCoding.Proofs.Frame
import ContentCoding.Proofs.Simulation
import Mathlib.Algebra.GroupWithZero.Nat

/-!
# Totals are conserved

A pipeline counts at both of its ends. What it says of itself is compared with
what the caller can add up: the counts in its replies, the bytes that the
caller's own stream has taken or handed out, and the layers that a building has
realized. `Metered` lets a stream keep the second of these sums; by
`Compressor.run_map` the pipeline cannot tell whether its stream does.

Layers answer, fail and are destroyed as they like. What is proved goes through
what each call can do to the totals: only the outlet counts encoded bytes, and
each byte once; only a reply counts plaintext; only a building records layers.
-/

namespace ContentCoding

/-- The number of layers that a building comes to. -/
def Building.size : Building (List String) → Nat
  | .built names => names.length
  | _ => 0

namespace Stage

/-- Whether one of the calls on a pipeline builds its chain. -/
def buildsAlong (outcome : Building (List String)) (eager : Bool) : Stage → List Demand → Bool
  | _, [] => false
  | stage, demand :: rest =>
    stage.builds eager demand || buildsAlong outcome eager (stage.answer outcome eager demand).2 rest

/-- The number of layers that calls on a fresh pipeline have realized. It is that of the chain
from the call that builds it, and stays so when the pipeline is closed. -/
def realized (outcome : Building (List String)) (eager : Bool) (demands : List Demand) : Nat :=
  if buildsAlong outcome eager fresh demands then outcome.size else 0

/-- The last call builds, or the ones before it did. -/
theorem buildsAlong_concat (outcome : Building (List String)) (eager : Bool) (stage : Stage)
    (demands : List Demand) (demand : Demand) :
    buildsAlong outcome eager stage (demands ++ [demand]) =
      (buildsAlong outcome eager stage demands ||
        (serve (answer outcome eager) stage demands).builds eager demand) := by
  induction demands generalizing stage with
  | nil => exact Bool.or_false _
  | cons first rest ih =>
    have hrest := ih (stage.answer outcome eager first).2
    simp only [List.cons_append, buildsAlong, hrest, Bool.or_assoc]
    rfl

/-- A call that builds realizes the chain, and no other call changes what is realized. -/
theorem realized_concat (outcome : Building (List String)) (eager : Bool) (demands : List Demand)
    (demand : Demand) :
    realized outcome eager (demands ++ [demand]) =
      if (after outcome eager demands).builds eager demand then outcome.size
      else realized outcome eager demands := by
  have hconcat := buildsAlong_concat outcome eager fresh demands demand
  rw [realized, realized, hconcat, after]
  cases (serve (answer outcome eager) fresh demands).builds eager demand with
  | true => simp only [Bool.or_true, if_true]
  | false => simp only [Bool.or_false, Bool.false_eq_true, if_false]

/-- A chain stands after a call if it stood before or if the call has built it. -/
theorem names?_answer {outcome : Building (List String)} {eager : Bool} {stage : Stage}
    {demand : Demand} {names : List String}
    (h : (stage.answer outcome eager demand).2.names? = some names) :
    stage.names? = some names ∨ (stage.builds eager demand = true ∧ outcome = .built names) := by
  cases stage with
  | fresh =>
    cases demand <;> cases outcome <;> cases eager <;>
      simp_all [answer, settle, close, builds, names?]
  | _ => cases demand <;> simp_all [answer, settle, close, names?]

/-- While a chain stands, its layers are what has been realized. -/
theorem realized_of_names? {outcome : Building (List String)} {eager : Bool}
    {demands : List Demand} {names : List String}
    (h : (after outcome eager demands).names? = some names) :
    realized outcome eager demands = names.length := by
  induction demands using List.reverseRecOn with
  | nil => cases h
  | append_singleton demands demand ih =>
    rw [after, serve_concat] at h
    have hconcat := realized_concat outcome eager demands demand
    cases hb : (after outcome eager demands).builds eager demand with
    | true =>
      rcases names?_answer h with hstood | ⟨-, rfl⟩
      · have hfresh : after outcome eager demands ≠ fresh := by
          intro hf
          rw [← after, hf] at hstood
          cases hstood
        rw [builds_eq_false hfresh] at hb
        cases hb
      · rw [hconcat, if_pos hb]
        rfl
    | false =>
      rcases names?_answer h with hstood | ⟨htrue, -⟩
      · rw [hconcat, if_neg (by rw [hb]; exact Bool.false_ne_true)]
        exact ih hstood
      · rw [← after, hb] at htrue
        cases htrue

end Stage

/-- What a reply adds to the plaintext: the bytes that a write took or a read gave. -/
def Reply.credit : Reply → Nat
  | .wrote (.done taken) => taken
  | .gave (.done bytes) => bytes.length
  | _ => 0

/-- So much plaintext and so many layers have been counted. -/
def Tallies (plaintext layers : UInt64) (counters : Counters) : Prop :=
  counters.plaintext = plaintext ∧ counters.layers = layers

/-- A reply that tells of no plaintext adds nothing. -/
theorem Tallies.unchanged {plaintext layers : UInt64} {counters : Counters}
    (ht : Tallies plaintext layers counters) {reply : Reply} (h : reply.credit = 0) :
    Tallies (plaintext + .ofNat reply.credit) layers counters := by
  rw [h]
  exact ⟨ht.1.trans (UInt64.add_zero plaintext).symm, ht.2⟩

/-- Plaintext is counted on top of what there was. -/
theorem Tallies.added {plaintext layers : UInt64} {counters : Counters}
    (ht : Tallies plaintext layers counters) (count : Nat) :
    Tallies (plaintext + .ofNat count) layers (counters.addPlaintext count) :=
  ⟨congrArg (· + UInt64.ofNat count) ht.1, ht.2⟩

/-- A stream that keeps the number of bytes it has taken or handed out. -/
structure Metered (σ : Type) where
  /-- The stream. -/
  stream : σ
  /-- The bytes it has taken or handed out. -/
  passed : Nat := 0

namespace Metered

variable {σ : Type}

/-- What a write adds to the bytes that a sink has taken. -/
def taken : Except Fault Nat → Nat
  | .ok count => count
  | .error _ => 0

/-- What a read adds to the bytes that a source has handed out. -/
def given : Except Fault Bytes → Nat
  | .ok bytes => bytes.length
  | .error _ => 0

instance [Sink σ] : Sink (Metered σ) where
  write metered bytes :=
    let (answer, stream) := Sink.write metered.stream bytes
    (answer, ⟨stream, metered.passed + taken answer⟩)
  flush metered :=
    let (answer, stream) := Sink.flush metered.stream
    (answer, { metered with stream })

instance [Source σ] : Source (Metered σ) where
  read metered room :=
    let (answer, stream) := Source.read metered.stream room
    (answer, ⟨stream, metered.passed + given answer⟩)

/-- A sink answers as if nothing were kept about it. -/
theorem sink_maps [Sink σ] : Sink.Maps (Metered.stream : Metered σ → σ) :=
  ⟨fun _ _ => rfl, fun _ => rfl⟩

/-- A source answers as if nothing were kept about it. -/
theorem source_maps [Source σ] : Source.Maps (Metered.stream : Metered σ → σ) :=
  fun _ _ => rfl

end Metered

namespace Compressor

variable {σ : Type} [Sink σ]

/-- What an outlet's operations keep, and what a compressor does to the outlet by itself keeps
too, is an invariant of the compressor. -/
theorem invariant_of_keeps {p : Outlet σ → Prop} (hp : Outlet.Keeps p)
    (hattach : ∀ outlet layers, p outlet →
      p { outlet with attached := true, counters := outlet.counters.setLayers layers })
    (hcredit : ∀ outlet answer, p outlet → p (outlet.credit answer))
    (hdetach : ∀ outlet, p outlet → p { outlet with attached := false })
    (registry : EncoderRegistry) (order : List String) :
    Invariant registry order fun _ outlet => p outlet := by
  refine ⟨?_, ?_, ?_, ?_, ?_⟩
  · rintro ⟨phase, failure, state⟩ outlet h
    cases phase with
    | unbuilt =>
      cases state with
      | unbuilt base =>
        have hbuild := Chain.realize_keeps hp.medium registry (order.filter (· != ""))
          ⟨0, base, []⟩ outlet h
        simp only [InitGuard.initWith, InitGuard.settled, construct, Chain.build]
        rcases hb : Chain.realize registry (order.filter (· != "")) ⟨0, base, []⟩ outlet with
          ⟨chain | error | _, after⟩ <;> rw [hb] at hbuild
        · exact hattach after _ hbuild
        · exact hbuild
        · exact hbuild
      | _ => exact h
    | _ => exact h
  · intro chain outlet bytes h
    have hwrite := (EncoderStack.writer_keeps hp chain.depth).write (chain.stack, outlet) bytes h
    exact hcredit _ _ hwrite
  · exact fun chain outlet h =>
      (EncoderStack.writer_keeps hp chain.depth).flush (chain.stack, outlet) h
  · exact fun _ _ _ _ h => h
  · intro chain outlet h
    have hwalk := Stack.finalizeAlong_keeps hp.medium chain.names.zipIdx.reverse chain.stack outlet h
    exact Stack.teardown_keeps hp.medium _ _ (hdetach _ hwalk)

/-- The outlet counts what its sink takes, each byte once. -/
theorem encoded_keeps : Outlet.Keeps fun outlet : Outlet (Metered σ) =>
    outlet.counters.encoded = .ofNat outlet.sink.passed := by
  refine ⟨?_, ?_, fun _ _ h => h⟩
  · rintro ⟨⟨stream, passed⟩, attached, counters, journal⟩ bytes h
    cases attached with
    | false => exact h
    | true =>
      simp only [Outlet.write, if_true, Sink.write]
      rcases Sink.write stream bytes with ⟨fault | count, after⟩
      · exact h
      · exact (congrArg (· + UInt64.ofNat count) h).trans (UInt64.ofNat_add passed count).symm
  · rintro ⟨⟨stream, passed⟩, attached, counters, journal⟩ h
    cases attached with
    | false => exact h
    | true => exact h

/-- At all times the encoded bytes are those that the sink has taken. -/
theorem encoded_of_run (sink : Metered σ) (hfirst : sink.passed = 0) (registry : EncoderRegistry)
    (order : List String) (calls : List Call) :
    ((create sink registry order).run calls).outlet.counters.encoded =
      .ofNat ((create sink registry order).run calls).outlet.sink.passed := by
  have hp : Invariant registry order fun _ (outlet : Outlet (Metered σ)) =>
      outlet.counters.encoded = .ofNat outlet.sink.passed := by
    refine invariant_of_keeps encoded_keeps (fun _ _ h => h) ?_ (fun _ h => h) registry order
    intro outlet answer h
    cases answer <;> exact h
  exact hp.run_keeps (by rw [hfirst]; rfl) calls

/-- Nothing that is done through an outlet counts plaintext or layers. -/
theorem tallies_keeps (plaintext layers : UInt64) :
    Outlet.Keeps fun outlet : Outlet σ => Tallies plaintext layers outlet.counters := by
  refine ⟨fun outlet bytes h => ?_, fun outlet h => ?_, fun _ _ h => h⟩
  · rw [Outlet.write]
    split
    · split <;> exact h
    · exact h
  · rw [Outlet.flush]
    split <;> exact h

variable {plaintext layers : UInt64} {outlet : Outlet σ}

omit [Sink σ] in
/-- What a write on the pipeline takes is counted as plaintext. -/
theorem credit_tallies (ht : Tallies plaintext layers outlet.counters)
    (answer : Except Fault Nat) :
    Tallies (plaintext + .ofNat (Reply.wrote (.ofExcept answer)).credit) layers
      (outlet.credit answer).counters := by
  cases answer with
  | error fault => exact ht.unchanged rfl
  | ok taken => exact ht.added taken

variable {sink : σ} {registry : EncoderRegistry} {order : List String} {stage : Stage}
variable {compressor : Compressor σ}

/-- Initializing counts no plaintext, and records the layers of the chain if it builds one. -/
theorem At.init_tallies (h : At sink registry order stage compressor)
    (ht : Tallies plaintext layers compressor.outlet.counters) :
    Tallies plaintext
      (if stage.builds true .build then .ofNat (prospect sink registry order).size else layers)
      compressor.init.2.outlet.counters := by
  by_cases hf : stage = .fresh
  · subst hf
    obtain ⟨requested, factories, guard, outlet⟩ := compressor
    obtain ⟨rfl, rfl, ⟨base, rfl⟩, hout⟩ := h
    have hfirst : outlet = { sink } := hout rfl
    subst hfirst
    obtain ⟨rfl, rfl⟩ := ht
    have hbuild := Chain.realize_keeps (tallies_keeps 0 0).medium factories
      (requested.filter (· != "")) ⟨0, base, []⟩ ({ sink } : Outlet σ) ⟨rfl, rfl⟩
    cases base
    simp only [Compressor.init, InitGuard.initWith, InitGuard.settled, prospect, construct,
      Chain.build, Stage.builds, if_true]
    rcases hb : Chain.realize factories (requested.filter (· != "")) ⟨0, .bottom, []⟩
      ({ sink } : Outlet σ) with ⟨chain | error | _, after⟩ <;> rw [hb] at hbuild
    · exact ⟨hbuild.1, rfl⟩
    · exact hbuild
    · exact hbuild
  · have hb := @Stage.builds_eq_false true stage hf .build
    rw [hb, h.init_eq_self hf, if_neg Bool.false_ne_true]
    exact ht

/-- A write counts the plaintext that it takes. -/
theorem At.write_tallies (h : At sink registry order stage compressor)
    (ht : Tallies plaintext layers compressor.init.2.outlet.counters) (bytes : Bytes) :
    Tallies (plaintext + .ofNat (Reply.wrote (compressor.write bytes).1).credit) layers
      (compressor.write bytes).2.outlet.counters := by
  obtain ⟨hreply, hsettled⟩ := h.init
  rw [write_eq]
  rcases stage.rule_cases (prospect sink registry order) with
    ⟨names, hs, hserved⟩ | ⟨error, hrefused⟩ | hcrashed
  · rw [hs] at hsettled
    obtain ⟨chain, hguard, -⟩ := hsettled.guard
    have hstate : compressor.init.2.guard.state = .built chain := by rw [hguard]
    have hwrite := (EncoderStack.writer_keeps (tallies_keeps plaintext layers) chain.depth).write
      (chain.stack, compressor.init.2.outlet) bytes ht
    simp only [hreply, hserved, Ruling.status, writeBuilt_of_built hstate]
    exact credit_tallies hwrite _
  · simp only [hreply, hrefused, Ruling.status]
    exact ht.unchanged rfl
  · simp only [hreply, hcrashed, Ruling.status]
    exact ht.unchanged rfl

/-- A flush counts neither plaintext nor layers. -/
theorem At.flush_tallies (h : At sink registry order stage compressor)
    (ht : Tallies plaintext layers compressor.outlet.counters) :
    Tallies plaintext layers compressor.flush.2.outlet.counters := by
  have hb := h.guard.isBuilt
  cases stage with
  | built names =>
    obtain ⟨chain, hguard, -⟩ := h.guard
    rw [flush_of_built hb (by rw [hguard])]
    exact (EncoderStack.writer_keeps (tallies_keeps plaintext layers) chain.depth).flush
      (chain.stack, compressor.outlet) ht
  | _ =>
    rw [flush_of_not_built hb]
    exact ht

/-- Beyond building the chain a close counts neither plaintext nor layers. -/
theorem At.close_tallies (h : At sink registry order stage compressor)
    (ht : Tallies plaintext layers compressor.init.2.outlet.counters) :
    Tallies plaintext layers compressor.close.2.outlet.counters := by
  obtain ⟨-, hsettled⟩ := h.init
  cases hn : (stage.settle (prospect sink registry order)).names? with
  | none =>
    rw [h.close_outlet hn]
    exact ht
  | some names =>
    have hbuilt := hsettled.guard.isBuilt
    rw [hn] at hbuilt
    obtain ⟨chain, hs, hguard⟩ := hsettled.guard.eq_of_isBuilt hbuilt
    have hwalk := Stack.finalizeAlong_keeps (tallies_keeps plaintext layers).medium
      chain.names.zipIdx.reverse chain.stack compressor.init.2.outlet ht
    rw [h.close_eq_finish hs, finish_of_built (by rw [hguard])]
    exact Stack.teardown_keeps (tallies_keeps plaintext layers).medium _ _ hwalk

/-- Each call counts the plaintext that its reply tells, and records the layers of the chain
if it builds one. -/
theorem At.call_tallies (h : At sink registry order stage compressor)
    (ht : Tallies plaintext layers compressor.outlet.counters) (request : Call) :
    Tallies (plaintext + .ofNat (compressor.call request).1.credit)
      (if stage.builds true request.demand then .ofNat (prospect sink registry order).size
        else layers)
      (compressor.call request).2.outlet.counters := by
  have hinit := h.init_tallies ht
  have hwants : ∀ demand, demand = .transfer ∨ demand = .close →
      stage.builds true demand = stage.builds true .build := by
    rintro demand (rfl | rfl) <;> cases stage <;> rfl
  have hnot : ∀ demand, demand = .flush ∨ demand = .look → stage.builds true demand = false := by
    rintro demand (rfl | rfl) <;> cases stage <;> rfl
  cases request with
  | init => exact hinit.unchanged rfl
  | write bytes =>
    rw [Call.demand, hwants _ (.inl rfl)]
    exact h.write_tallies hinit bytes
  | flush =>
    rw [Call.demand, hnot _ (.inl rfl)]
    exact (h.flush_tallies ht).unchanged rfl
  | close =>
    rw [Call.demand, hwants _ (.inr rfl)]
    exact (h.close_tallies hinit).unchanged rfl
  | _ =>
    rw [Call.demand, hnot _ (.inr rfl)]
    exact ht.unchanged rfl

/-- At all times the plaintext is what the replies have told, and the layers are those that
have been realized. -/
theorem tallies_of_run (sink : σ) (registry : EncoderRegistry) (order : List String)
    (calls : List Call) :
    Tallies (.ofNat ((replies call (create sink registry order) calls).map Reply.credit).sum)
      (.ofNat (Stage.realized (prospect sink registry order) true (calls.map Call.demand)))
      ((create sink registry order).run calls).outlet.counters := by
  induction calls using List.reverseRecOn with
  | nil => exact ⟨rfl, rfl⟩
  | append_singleton calls request ih =>
    have hcall := (at_run sink registry order calls).call_tallies ih request
    rw [replies_concat, List.map_append, List.sum_append, List.map_singleton, List.sum_singleton,
      UInt64.ofNat_add, List.map_append, List.map_singleton, Stage.realized_concat,
      apply_ite UInt64.ofNat, run, serve_concat]
    exact hcall

/-- The layers that a building realizes are the names of the order that are not blank. -/
theorem prospect_names {sink : σ} {registry : EncoderRegistry} {order names : List String}
    (h : prospect sink registry order = .built names) : names = order.filter (· != "") := by
  rw [prospect] at h
  rcases hc : (construct registry order .bottom ({ sink } : Outlet σ)).1 with chain | error | _ <;>
    rw [hc] at h <;> cases h
  exact (Chain.realizes_of_build (build_of_construct hc)).names_eq

/-- While a chain stands, the number of its layers is what has been realized. -/
theorem layerCount_of_run {sink : σ} {registry : EncoderRegistry} {order : List String}
    {calls : List Call} {count : Nat}
    (h : ((create sink registry order).run calls).layerCount = some count) :
    count = Stage.realized (prospect sink registry order) true (calls.map Call.demand) := by
  have hlooked := (at_run sink registry order calls).guard.withBuilt List.length
  have hnames := hlooked.symm.trans h
  rw [Option.map_eq_some_iff] at hnames
  obtain ⟨names, hstands, rfl⟩ := hnames
  exact (Stage.realized_of_names? hstands).symm

end Compressor

namespace Decompressor

variable {σ : Type} [Source σ]

/-- The inlet counts what its source hands out, each byte once. -/
theorem encoded_keeps : Inlet.Keeps fun inlet : Inlet (Metered σ) =>
    inlet.counters.encoded = .ofNat inlet.source.passed := by
  refine ⟨?_, fun _ _ h => h⟩
  rintro ⟨⟨stream, passed⟩, counters, journal⟩ room h
  simp only [Inlet.read, Source.read]
  rcases Source.read stream room with ⟨fault | bytes, after⟩
  · exact h
  · exact (congrArg (· + UInt64.ofNat bytes.length) h).trans
      (UInt64.ofNat_add passed bytes.length).symm

/-- What an inlet's operations keep, and what a decompressor does to the inlet by itself keeps
too, is an invariant of the decompressor. -/
theorem invariant_of_keeps {p : Inlet σ → Prop} (hp : Inlet.Keeps p)
    (hlayers : ∀ inlet layers, p inlet →
      p { inlet with counters := inlet.counters.setLayers layers })
    (hcredit : ∀ inlet answer, p inlet → p (inlet.credit answer))
    (registry : DecoderRegistry) (order : List String) :
    Invariant registry order fun _ inlet => p inlet := by
  refine ⟨?_, ?_, ?_, ?_⟩
  · rintro ⟨phase, failure, state⟩ inlet h
    cases phase with
    | unbuilt =>
      cases state with
      | unbuilt base =>
        have hbuild := Chain.realize_keeps hp.medium registry (order.filter (· != ""))
          ⟨0, base, []⟩ inlet h
        simp only [InitGuard.initWith, InitGuard.settled, construct, Chain.build]
        rcases hb : Chain.realize registry (order.filter (· != "")) ⟨0, base, []⟩ inlet with
          ⟨chain | error | _, after⟩ <;> rw [hb] at hbuild
        · exact hlayers after _ hbuild
        · exact hbuild
        · exact hbuild
      | _ => exact h
    | _ => exact h
  · intro chain inlet room h
    have hread := (DecoderStack.reader_keeps hp chain.depth).read (chain.stack, inlet) room h
    exact hcredit _ _ hread
  · exact fun _ _ _ _ h => h
  · intro chain inlet h
    have hwalk := Stack.finalizeAlong_keeps hp.medium chain.names.zipIdx.reverse chain.stack inlet h
    exact Stack.teardown_keeps hp.medium _ _ hwalk

/-- At all times the encoded bytes are those that the source has handed out. -/
theorem encoded_of_run (source : Metered σ) (hfirst : source.passed = 0)
    (registry : DecoderRegistry) (order : List String) (calls : List Call) :
    ((create source registry order).run calls).inlet.counters.encoded =
      .ofNat ((create source registry order).run calls).inlet.source.passed := by
  have hp : Invariant registry order fun _ (inlet : Inlet (Metered σ)) =>
      inlet.counters.encoded = .ofNat inlet.source.passed := by
    refine invariant_of_keeps encoded_keeps (fun _ _ h => h) ?_ registry order
    intro inlet answer h
    cases answer <;> exact h
  exact hp.run_keeps (by rw [hfirst]; rfl) calls

/-- Nothing that is done through an inlet counts plaintext or layers. -/
theorem tallies_keeps (plaintext layers : UInt64) :
    Inlet.Keeps fun inlet : Inlet σ => Tallies plaintext layers inlet.counters := by
  refine ⟨fun inlet room h => ?_, fun _ _ h => h⟩
  rw [Inlet.read]
  split <;> exact h

variable {plaintext layers : UInt64} {inlet : Inlet σ}

omit [Source σ] in
/-- What a read on the pipeline gives is counted as plaintext. -/
theorem credit_tallies (ht : Tallies plaintext layers inlet.counters)
    (answer : Except Fault Bytes) :
    Tallies (plaintext + .ofNat (Reply.gave (.ofExcept answer)).credit) layers
      (inlet.credit answer).counters := by
  cases answer with
  | error fault => exact ht.unchanged rfl
  | ok bytes => exact ht.added bytes.length

variable {source : σ} {registry : DecoderRegistry} {order : List String} {stage : Stage}
variable {decompressor : Decompressor σ}

/-- Initializing counts no plaintext, and records the layers of the chain if it builds one. -/
theorem At.init_tallies (h : At source registry order stage decompressor)
    (ht : Tallies plaintext layers decompressor.inlet.counters) :
    Tallies plaintext
      (if stage.builds false .build then .ofNat (prospect source registry order).size else layers)
      decompressor.init.2.inlet.counters := by
  by_cases hf : stage = .fresh
  · subst hf
    obtain ⟨requested, factories, guard, inlet⟩ := decompressor
    obtain ⟨rfl, rfl, ⟨base, rfl⟩, hin⟩ := h
    have hfirst : inlet = { source } := hin rfl
    subst hfirst
    obtain ⟨rfl, rfl⟩ := ht
    have hbuild := Chain.realize_keeps (tallies_keeps 0 0).medium factories
      (requested.filter (· != "")) ⟨0, base, []⟩ ({ source } : Inlet σ) ⟨rfl, rfl⟩
    cases base
    simp only [Decompressor.init, InitGuard.initWith, InitGuard.settled, prospect, construct,
      Chain.build, Stage.builds, if_true]
    rcases hb : Chain.realize factories (requested.filter (· != "")) ⟨0, .bottom, []⟩
      ({ source } : Inlet σ) with ⟨chain | error | _, after⟩ <;> rw [hb] at hbuild
    · exact ⟨hbuild.1, rfl⟩
    · exact hbuild
    · exact hbuild
  · have hb := @Stage.builds_eq_false false stage hf .build
    rw [hb, h.init_eq_self hf, if_neg Bool.false_ne_true]
    exact ht

/-- A read counts the plaintext that it gives. -/
theorem At.read_tallies (h : At source registry order stage decompressor)
    (ht : Tallies plaintext layers decompressor.init.2.inlet.counters) (room : Nat) :
    Tallies (plaintext + .ofNat (Reply.gave (decompressor.read room).1).credit) layers
      (decompressor.read room).2.inlet.counters := by
  obtain ⟨hreply, hsettled⟩ := h.init
  rw [read_eq]
  rcases stage.rule_cases (prospect source registry order) with
    ⟨names, hs, hserved⟩ | ⟨error, hrefused⟩ | hcrashed
  · rw [hs] at hsettled
    obtain ⟨chain, hguard, -⟩ := hsettled.guard
    have hstate : decompressor.init.2.guard.state = .built chain := by rw [hguard]
    have hread := (DecoderStack.reader_keeps (tallies_keeps plaintext layers) chain.depth).read
      (chain.stack, decompressor.init.2.inlet) room ht
    simp only [hreply, hserved, Ruling.status, readBuilt_of_built hstate]
    exact credit_tallies hread _
  · simp only [hreply, hrefused, Ruling.status]
    exact ht.unchanged rfl
  · simp only [hreply, hcrashed, Ruling.status]
    exact ht.unchanged rfl

/-- A close counts neither plaintext nor layers. -/
theorem At.close_tallies (h : At source registry order stage decompressor)
    (ht : Tallies plaintext layers decompressor.inlet.counters) :
    Tallies plaintext layers decompressor.close.2.inlet.counters := by
  cases stage with
  | built names =>
    obtain ⟨chain, hguard, -⟩ := h.guard
    have hwalk := Stack.finalizeAlong_keeps (tallies_keeps plaintext layers).medium
      chain.names.zipIdx.reverse chain.stack decompressor.inlet ht
    rw [close_of_built (by rw [hguard])]
    exact Stack.teardown_keeps (tallies_keeps plaintext layers).medium _ _ hwalk
  | _ =>
    rw [close_of_not_built (h.guard.close_fst rfl)]
    exact ht

/-- Each call counts the plaintext that its reply tells, and records the layers of the chain
if it builds one. -/
theorem At.call_tallies (h : At source registry order stage decompressor)
    (ht : Tallies plaintext layers decompressor.inlet.counters) (request : Call) :
    Tallies (plaintext + .ofNat (decompressor.call request).1.credit)
      (if stage.builds false request.demand then .ofNat (prospect source registry order).size
        else layers)
      (decompressor.call request).2.inlet.counters := by
  have hinit := h.init_tallies ht
  have hwants : stage.builds false .transfer = stage.builds false .build := by cases stage <;> rfl
  have hnot : ∀ demand, demand = .close ∨ demand = .look → stage.builds false demand = false := by
    rintro demand (rfl | rfl) <;> cases stage <;> rfl
  cases request with
  | init => exact hinit.unchanged rfl
  | read room =>
    rw [Call.demand, hwants]
    exact h.read_tallies hinit room
  | close =>
    rw [Call.demand, hnot _ (.inl rfl)]
    exact (h.close_tallies ht).unchanged rfl
  | _ =>
    rw [Call.demand, hnot _ (.inr rfl)]
    exact ht.unchanged rfl

/-- At all times the plaintext is what the replies have told, and the layers are those that
have been realized. -/
theorem tallies_of_run (source : σ) (registry : DecoderRegistry) (order : List String)
    (calls : List Call) :
    Tallies (.ofNat ((replies call (create source registry order) calls).map Reply.credit).sum)
      (.ofNat (Stage.realized (prospect source registry order) false (calls.map Call.demand)))
      ((create source registry order).run calls).inlet.counters := by
  induction calls using List.reverseRecOn with
  | nil => exact ⟨rfl, rfl⟩
  | append_singleton calls request ih =>
    have hcall := (at_run source registry order calls).call_tallies ih request
    rw [replies_concat, List.map_append, List.sum_append, List.map_singleton, List.sum_singleton,
      UInt64.ofNat_add, List.map_append, List.map_singleton, Stage.realized_concat,
      apply_ite UInt64.ofNat, run, serve_concat]
    exact hcall

/-- The layers that a building realizes are the names of the order that are not blank. -/
theorem prospect_names {source : σ} {registry : DecoderRegistry} {order names : List String}
    (h : prospect source registry order = .built names) : names = order.filter (· != "") := by
  rw [prospect] at h
  rcases hc : (construct registry order .bottom ({ source } : Inlet σ)).1 with chain | error | _ <;>
    rw [hc] at h <;> cases h
  exact (Chain.realizes_of_build (build_of_construct hc)).names_eq

/-- While a chain stands, the number of its layers is what has been realized. -/
theorem layerCount_of_run {source : σ} {registry : DecoderRegistry} {order : List String}
    {calls : List Call} {count : Nat}
    (h : ((create source registry order).run calls).layerCount = some count) :
    count = Stage.realized (prospect source registry order) false (calls.map Call.demand) := by
  have hlooked := (at_run source registry order calls).guard.withBuilt List.length
  have hnames := hlooked.symm.trans h
  rw [Option.map_eq_some_iff] at hnames
  obtain ⟨names, hstands, rfl⟩ := hnames
  exact (Stage.realized_of_names? hstands).symm

end Decompressor

/-- Totals are conserved. Whatever calls are made, whatever the layers do and however the
caller's stream answers, a pipeline's totals are those that a caller can add up: the plaintext
that the replies have told, the bytes that the stream has taken or handed out, and the layers
that a call has realized. The meter only watches: the metered pipeline is the plain one. -/
theorem telemetry_conserved :
    (∀ {σ : Type} [Sink σ] (sink : σ) (registry : EncoderRegistry) (order : List String)
        (calls : List Compressor.Call),
      let fresh := Compressor.create sink registry order
      let compressor := fresh.run calls
      let metered := (Compressor.create (⟨sink, 0⟩ : Metered σ) registry order).run calls
      let outcome := Compressor.prospect sink registry order
      let layers := Stage.realized outcome true (calls.map Compressor.Call.demand)
      metered.map Metered.stream = compressor ∧
        compressor.snapshot = .ofTotals
          (.ofNat ((replies Compressor.call fresh calls).map Reply.credit).sum)
          (.ofNat metered.outlet.sink.passed) (.ofNat layers) ∧
        (∀ names, outcome = .built names → names = order.filter (· != "")) ∧
        (∀ count, compressor.layerCount = some count → count = layers)) ∧
    (∀ {σ : Type} [Source σ] (source : σ) (registry : DecoderRegistry) (order : List String)
        (calls : List Decompressor.Call),
      let fresh := Decompressor.create source registry order
      let decompressor := fresh.run calls
      let metered := (Decompressor.create (⟨source, 0⟩ : Metered σ) registry order).run calls
      let outcome := Decompressor.prospect source registry order
      let layers := Stage.realized outcome false (calls.map Decompressor.Call.demand)
      metered.map Metered.stream = decompressor ∧
        decompressor.snapshot = .ofTotals
          (.ofNat ((replies Decompressor.call fresh calls).map Reply.credit).sum)
          (.ofNat metered.inlet.source.passed) (.ofNat layers) ∧
        (∀ names, outcome = .built names → names = order.filter (· != "")) ∧
        (∀ count, decompressor.layerCount = some count → count = layers)) := by
  constructor
  · intro σ _ sink registry order calls
    have hmap := (Compressor.run_map Metered.sink_maps
      (Compressor.create (⟨sink, 0⟩ : Metered σ) registry order) calls).1
    have hplain : ((Compressor.create (⟨sink, 0⟩ : Metered σ) registry order).run calls).map
        Metered.stream = (Compressor.create sink registry order).run calls := hmap.symm
    obtain ⟨hplaintext, hlayers⟩ := Compressor.tallies_of_run sink registry order calls
    have hmetered := Compressor.encoded_of_run (⟨sink, 0⟩ : Metered σ) rfl registry order calls
    have hencoded : ((Compressor.create sink registry order).run calls).outlet.counters.encoded =
        .ofNat ((Compressor.create (⟨sink, 0⟩ : Metered σ) registry order).run
          calls).outlet.sink.passed := by
      rw [← hplain]
      exact hmetered
    refine ⟨hplain, ?_, fun names => Compressor.prospect_names,
      fun count => Compressor.layerCount_of_run⟩
    rw [Compressor.snapshot, Counters.snapshot, hplaintext, hlayers, hencoded]
  · intro σ _ source registry order calls
    have hmap := (Decompressor.run_map Metered.source_maps
      (Decompressor.create (⟨source, 0⟩ : Metered σ) registry order) calls).1
    have hplain : ((Decompressor.create (⟨source, 0⟩ : Metered σ) registry order).run calls).map
        Metered.stream = (Decompressor.create source registry order).run calls := hmap.symm
    obtain ⟨hplaintext, hlayers⟩ := Decompressor.tallies_of_run source registry order calls
    have hmetered := Decompressor.encoded_of_run (⟨source, 0⟩ : Metered σ) rfl registry order calls
    have hencoded : ((Decompressor.create source registry order).run calls).inlet.counters.encoded =
        .ofNat ((Decompressor.create (⟨source, 0⟩ : Metered σ) registry order).run
          calls).inlet.source.passed := by
      rw [← hplain]
      exact hmetered
    refine ⟨hplain, ?_, fun names => Decompressor.prospect_names,
      fun count => Decompressor.layerCount_of_run⟩
    rw [Decompressor.snapshot, Counters.snapshot, hplaintext, hlayers, hencoded]

end ContentCoding
