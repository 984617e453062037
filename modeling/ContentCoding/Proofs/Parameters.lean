import ContentCoding.Proofs.Builtin
import ContentCoding.Proofs.Construction

/-!
# Parameters and their ranges

A configuration has five parameters, each with a range of its own. All checks go by these ranges:
validation checks all parameters in order, and the factory of a layer checks those that the layer
uses. So the checks of one layer are a part of those of validation, in the same order, and each of
them reports the first parameter that is out of range.

The main statement is that both agree about whole orders. A pipeline opens exactly if no layer of
its order uses a parameter that is out of range. Otherwise it fails at the first such layer, with the
report of the first such parameter.
-/

namespace ContentCoding

/-- A parameter of a configuration. -/
inductive Parameter
  /-- The level of gzip, zlib and deflate. -/
  | flateLevel
  /-- The quality of br. -/
  | brotliQuality
  /-- The window bits of br. -/
  | brotliWindow
  /-- The level of zstd. -/
  | zstdLevel
  /-- The buffer of br and compress layers. -/
  | bufferSize
  deriving DecidableEq, Repr

namespace Parameter

/-- Every parameter, in the order in which validation looks at them. -/
def all : List Parameter := [flateLevel, brotliQuality, brotliWindow, zstdLevel, bufferSize]

/-- The value that a configuration gives to a parameter. -/
def value (config : CodecConfig) : Parameter → Int
  | flateLevel => config.flateLevel.toNat
  | brotliQuality => config.brotliQuality.toNat
  | brotliWindow => config.brotliWindow.toNat
  | zstdLevel => config.zstdLevel.toInt
  | bufferSize => config.bufferSize.toNat

/-- The least value in range. -/
def least : Parameter → Int
  | flateLevel => 0
  | brotliQuality => 0
  | brotliWindow => CodecConfig.minBrotliWindow
  | zstdLevel => CodecConfig.minZstdLevel
  | bufferSize => CodecConfig.minBufferSize

/-- The greatest value in range. -/
def greatest : Parameter → Int
  | flateLevel => CodecConfig.maxFlateLevel
  | brotliQuality => CodecConfig.maxBrotliQuality
  | brotliWindow => CodecConfig.maxBrotliWindow
  | zstdLevel => CodecConfig.maxZstdLevel
  | bufferSize => CodecConfig.maxBufferSize

/-- Whether the value of a parameter is in its range. -/
def InRange (config : CodecConfig) (parameter : Parameter) : Prop :=
  parameter.least ≤ parameter.value config ∧ parameter.value config ≤ parameter.greatest

instance (config : CodecConfig) (parameter : Parameter) : Decidable (parameter.InRange config) :=
  inferInstanceAs (Decidable (_ ∧ _))

/-- The report of a parameter that is out of range. -/
def error (config : CodecConfig) : Parameter → ConfigError
  | flateLevel => .level .flate config.flateLevel.toNat 0 CodecConfig.maxFlateLevel
  | brotliQuality => .level .br config.brotliQuality.toNat 0 CodecConfig.maxBrotliQuality
  | brotliWindow =>
    .window config.brotliWindow.toNat CodecConfig.minBrotliWindow CodecConfig.maxBrotliWindow
  | zstdLevel =>
    .level .zstd config.zstdLevel.toInt CodecConfig.minZstdLevel CodecConfig.maxZstdLevel
  | bufferSize =>
    .buffer config.bufferSize.toNat CodecConfig.minBufferSize CodecConfig.maxBufferSize

end Parameter

namespace CodecConfig

/-- Look at parameters one after another, and report the first one that is out of range. -/
def checkAll (config : CodecConfig) : List Parameter → Except ConfigError Unit
  | [] => .ok ()
  | parameter :: later =>
    if parameter.InRange config then config.checkAll later else .error (parameter.error config)

variable {config : CodecConfig}

/-- Parameters pass if all of them are in range. -/
theorem checkAll_eq_ok_iff {parameters : List Parameter} :
    config.checkAll parameters = .ok () ↔ ∀ parameter ∈ parameters, parameter.InRange config := by
  induction parameters with
  | nil => simp [checkAll]
  | cons parameter later ih =>
    by_cases hrange : parameter.InRange config <;> simp [checkAll, hrange, ih]

/-- A report is about the first parameter that is out of range. -/
theorem checkAll_eq_error_iff {parameters : List Parameter} {error : ConfigError} :
    config.checkAll parameters = .error error ↔ ∃ earlier parameter later,
      parameters = earlier ++ parameter :: later ∧ (∀ other ∈ earlier, other.InRange config) ∧
        ¬parameter.InRange config ∧ error = parameter.error config := by
  induction parameters with
  | nil => simp [checkAll]
  | cons first rest ih =>
    rw [checkAll]
    by_cases hrange : first.InRange config
    · rw [if_pos hrange, ih]
      constructor
      · rintro ⟨earlier, parameter, later, rfl, hfine, hbad⟩
        exact ⟨first :: earlier, parameter, later, rfl, by simpa [hrange] using hfine, hbad⟩
      · rintro ⟨earlier, parameter, later, hsplit, hfine, hbad, herror⟩
        cases earlier with
        | nil =>
          obtain ⟨rfl, -⟩ := List.cons.inj hsplit
          exact absurd hrange hbad
        | cons other earlier =>
          obtain ⟨-, hrest⟩ := List.cons.inj hsplit
          exact ⟨earlier, parameter, later, hrest,
            fun another h => hfine another (List.mem_cons_of_mem _ h), hbad, herror⟩
    · rw [if_neg hrange]
      constructor
      · intro herror
        exact ⟨[], first, rest, rfl, nofun, hrange, (Except.error.inj herror).symm⟩
      · rintro ⟨earlier, parameter, later, hsplit, hfine, hbad, rfl⟩
        cases earlier with
        | nil =>
          obtain ⟨rfl, -⟩ := List.cons.inj hsplit
          rfl
        | cons other earlier =>
          obtain ⟨rfl, -⟩ := List.cons.inj hsplit
          exact absurd (hfine _ List.mem_cons_self) hrange

/-- Parameters may be looked at in two turns. -/
theorem checkAll_append (parameters others : List Parameter) :
    config.checkAll (parameters ++ others) =
      match config.checkAll parameters with
      | .error error => .error error
      | .ok () => config.checkAll others := by
  induction parameters with
  | nil => rfl
  | cons parameter later ih =>
    by_cases hrange : parameter.InRange config
    · simp only [List.cons_append, checkAll, hrange, if_true, ih]
    · simp only [List.cons_append, checkAll, hrange, if_false]

/-! ### What the checks look at -/

/-- The check of gzip, zlib and deflate looks at their level. -/
theorem checkFlate_eq : checkFlate config.flateLevel = config.checkAll [.flateLevel] := by
  have hrange : Parameter.flateLevel.InRange config ↔ config.flateLevel.toNat ≤ maxFlateLevel := by
    simp [Parameter.InRange, Parameter.least, Parameter.greatest, Parameter.value]
  simp only [checkFlate, checkAll, hrange, Parameter.error]

/-- The check of br looks at its quality and at its window. -/
theorem checkBrotli_eq :
    checkBrotli config.brotliQuality config.brotliWindow =
      config.checkAll [.brotliQuality, .brotliWindow] := by
  have hquality : Parameter.brotliQuality.InRange config ↔
      ¬maxBrotliQuality < config.brotliQuality.toNat := by
    simp [Parameter.InRange, Parameter.least, Parameter.greatest, Parameter.value]
  have hwindow : Parameter.brotliWindow.InRange config ↔
      minBrotliWindow ≤ config.brotliWindow.toNat ∧
        config.brotliWindow.toNat ≤ maxBrotliWindow := by
    simp [Parameter.InRange, Parameter.least, Parameter.greatest, Parameter.value]
  simp only [checkBrotli, checkAll, hquality, hwindow, Parameter.error, ite_not]

/-- The check of zstd looks at its level. -/
theorem checkZstd_eq : checkZstd config.zstdLevel = config.checkAll [.zstdLevel] := rfl

/-- The check of buffers looks at their size. -/
theorem checkBuffer_eq : checkBuffer config.bufferSize = config.checkAll [.bufferSize] := by
  have hrange : Parameter.bufferSize.InRange config ↔
      minBufferSize ≤ config.bufferSize.toNat ∧ config.bufferSize.toNat ≤ maxBufferSize := by
    simp [Parameter.InRange, Parameter.least, Parameter.greatest, Parameter.value]
  simp only [checkBuffer, checkAll, hrange, Parameter.error]

/-- Validation looks at all parameters. -/
theorem validate_eq : config.validate = config.checkAll Parameter.all := by
  have hall : Parameter.all = [.flateLevel] ++ ([.brotliQuality, .brotliWindow] ++
      ([.zstdLevel] ++ [.bufferSize])) := rfl
  rw [hall, checkAll_append, checkAll_append, checkAll_append, ← checkFlate_eq, ← checkBrotli_eq,
    ← checkZstd_eq, ← checkBuffer_eq]
  rfl

end CodecConfig

namespace Coding

/-- The parameters of an encoding layer, in the order in which its factory looks at them. -/
def encodingParameters : Coding → List Parameter
  | blank => []
  | identity => []
  | gzip => [.flateLevel]
  | zlib => [.flateLevel]
  | br => [.brotliQuality, .brotliWindow, .bufferSize]
  | deflate => [.flateLevel]
  | compress => [.bufferSize]
  | zstd => [.zstdLevel]

/-- The parameters of a decoding layer. Levels and windows do not matter to it. -/
def decodingParameters : Coding → List Parameter
  | br => [.bufferSize]
  | compress => [.bufferSize]
  | _ => []

/-- Only the blank coding has a blank token. -/
theorem token_ne_blank (coding : Coding) : (coding.token != "") = decide (coding ≠ blank) := by
  cases coding <;> rfl

/-- The layers of an order of codings are those that are not blank. -/
theorem filter_tokens (codings : List Coding) :
    (codings.map token).filter (· != "") = (codings.filter (· ≠ blank)).map token := by
  rw [List.filter_map]
  exact congrArg (List.map token) (List.filter_congr fun coding _ => token_ne_blank coding)

end Coding

/-- What opening a pipeline comes to, if the layers of its order use some parameters each. It opens
if all of them are in range. Otherwise it fails at the first layer for which one is not, with the
report of the first one. The index is the number of layers before that one. -/
inductive Opening (config : CodecConfig) (parametersOf : Coding → List Parameter)
    (layers : List Coding) : Outcome PipelineError Unit → Prop
  /-- All parameters that are used are in range. -/
  | opens (fine : ∀ coding ∈ layers, ∀ parameter ∈ parametersOf coding, parameter.InRange config) :
    Opening config parametersOf layers (.done ())
  /-- A layer uses a parameter that is out of range. -/
  | fails {before after : List Coding} {coding : Coding} {earlier later : List Parameter}
      {parameter : Parameter} (layer : layers = before ++ coding :: after)
      (fine : ∀ other ∈ before, ∀ parameter ∈ parametersOf other, parameter.InRange config)
      (checks : parametersOf coding = earlier ++ parameter :: later)
      (passed : ∀ other ∈ earlier, other.InRange config) (bad : ¬parameter.InRange config) :
    Opening config parametersOf layers
      (.failed (.construction before.length coding.token
        (.described .invalidInput (parameter.error config).message)))

/-- A pipeline opens exactly if all parameters that its layers use are in range. -/
theorem Opening.eq_done_iff {config : CodecConfig} {parametersOf : Coding → List Parameter}
    {layers : List Coding} {answer : Outcome PipelineError Unit}
    (h : Opening config parametersOf layers answer) :
    answer = .done () ↔
      ∀ coding ∈ layers, ∀ parameter ∈ parametersOf coding, parameter.InRange config := by
  cases h with
  | opens fine => exact ⟨fun _ => fine, fun _ => rfl⟩
  | @fails before after coding earlier later parameter layer fine checks passed bad =>
    have hcoding : coding ∈ layers := by simp [layer]
    have hparameter : parameter ∈ parametersOf coding := by simp [checks]
    exact ⟨nofun, fun hall => absurd (hall coding hcoding parameter hparameter) bad⟩

/-- What comes before the first element that fails a test, and what is left with it, are determined
by the list. -/
theorem split_at_first {α : Type} {p : α → Prop} [DecidablePred p] {before : List α} {bad : α}
    (hbefore : ∀ a ∈ before, p a) (hbad : ¬p bad) (after : List α) :
    (before ++ bad :: after).takeWhile p = before ∧
      (before ++ bad :: after).dropWhile p = bad :: after := by
  constructor
  · rw [List.takeWhile_append_of_pos (by simpa using hbefore), List.takeWhile_cons_of_neg (by simpa),
      List.append_nil]
  · rw [List.dropWhile_append_of_pos (by simpa using hbefore), List.dropWhile_cons_of_neg (by simpa)]

/-- There is only one thing that opening a pipeline comes to. -/
theorem Opening.unique {config : CodecConfig} {parametersOf : Coding → List Parameter}
    {layers : List Coding} {answer other : Outcome PipelineError Unit}
    (h : Opening config parametersOf layers answer)
    (hother : Opening config parametersOf layers other) : answer = other := by
  cases h with
  | opens fine => exact (hother.eq_done_iff.mpr fine).symm
  | @fails before after coding earlier later parameter layer fine checks passed bad =>
    have hcoding : ¬∀ parameter ∈ parametersOf coding, parameter.InRange config :=
      fun hall => bad (hall parameter (by simp [checks]))
    cases hother with
    | opens allFine => exact absurd (allFine coding (by simp [layer])) hcoding
    | @fails before' after' coding' earlier' later' parameter' layer' fine' checks' passed' bad' =>
      have hcoding' : ¬∀ parameter ∈ parametersOf coding', parameter.InRange config :=
        fun hall => bad' (hall parameter' (by simp [checks']))
      have hfirst := split_at_first fine hcoding after
      have hfirst' := split_at_first fine' hcoding' after'
      rw [← layer] at hfirst
      rw [← layer'] at hfirst'
      obtain rfl : before = before' := hfirst.1.symm.trans hfirst'.1
      obtain ⟨rfl, -⟩ := List.cons.inj (hfirst.2.symm.trans hfirst'.2)
      have hparameter := split_at_first passed bad later
      have hparameter' := split_at_first passed' bad' later'
      rw [← checks] at hparameter
      rw [← checks'] at hparameter'
      obtain ⟨rfl, -⟩ := List.cons.inj (hparameter.2.symm.trans hparameter'.2)
      rfl

/-- What a pipeline answers when its chain has been built so. -/
def Building.answer {C : Type 1} : Building C → Outcome PipelineError Unit
  | .built _ => .done ()
  | .failed error => .failed error
  | .crashed => .crashed

section Checked

variable {K : Type 1} {S : K → Type} {F : Type 1} (P : Type) [Medium S F P]

/-- A factory makes its layer if a check passes, and otherwise reports what the check does. -/
def GoesBy (S : K → Type) [Medium S F P] (factory : F) (check : Except ConfigError Unit) : Prop :=
  ∀ {depth : Nat} (stack : Stack S depth) (port : P),
    match check with
    | .ok () => ∃ kind state, (Medium.construct factory stack port).1 = .built kind state
    | .error error => (Medium.construct factory stack port).1 = .refused error.toFault

variable {P} {config : CodecConfig} {parametersOf : Coding → List Parameter}
  {factoryOf : Coding → F} {registry : Registry F}

section

variable {factory : F} {check : Except ConfigError Unit} {depth : Nat} {stack : Stack S depth}
  {port : P}

/-- A factory that makes its layer has a check that passes. -/
theorem GoesBy.built (h : GoesBy P S factory check) {kind : K} {state : S kind}
    (hbuilt : (Medium.construct factory stack port).1 = .built kind state) : check = .ok () := by
  have hmade := h stack port
  cases check with
  | ok _ => rfl
  | error error =>
    rw [hbuilt] at hmade
    cases hmade

/-- What a factory reports is what its check reports. -/
theorem GoesBy.refused (h : GoesBy P S factory check) {fault : Fault}
    (hrefuses : (Medium.construct factory stack port).1 = .refused fault) :
    ∃ error, check = .error error ∧ fault = error.toFault := by
  have hmade := h stack port
  cases check with
  | ok _ =>
    obtain ⟨kind, state, hbuilt⟩ := hmade
    rw [hrefuses] at hbuilt
    cases hbuilt
  | error error =>
    rw [hrefuses] at hmade
    cases hmade
    exact ⟨error, rfl, rfl⟩

/-- A factory that goes by a check does not break off. -/
theorem GoesBy.ne_crashed (h : GoesBy P S factory check) :
    (Medium.construct factory stack port).1 ≠ .crashed := by
  intro hcrashed
  have hmade := h stack port
  cases check with
  | ok _ =>
    obtain ⟨kind, state, hbuilt⟩ := hmade
    rw [hcrashed] at hbuilt
    cases hbuilt
  | error error =>
    rw [hcrashed] at hmade
    cases hmade

end

/-- The codings that have been realized have passed their checks. -/
theorem Leads.passed {start finish : Chain S × P} {done : List (Invocation S F P)}
    (hget : ∀ coding, registry.get? coding.token = some (factoryOf coding))
    (hgoes : ∀ coding, GoesBy P S (factoryOf coding) (config.checkAll (parametersOf coding)))
    (h : Leads registry start done finish) {coding : Coding}
    (hcoding : coding.token ∈ done.map Invocation.name) :
    config.checkAll (parametersOf coding) = .ok () := by
  induction h with
  | none start => cases hcoding
  | @step name factory start next finish later registered makes goesOn ih =>
    rcases List.mem_cons.mp hcoding with hfirst | hlater
    · have hfactory : factory = factoryOf coding := by
        have hsame : registry.get? coding.token = some factory := hfirst ▸ registered
        exact Option.some.inj (hsame.symm.trans (hget coding))
      obtain ⟨⟨depth, stack, names⟩, port⟩ := start
      simp only [Invocation.next?] at makes
      split at makes
      · rename_i hbuilt
        exact GoesBy.built (hgoes coding) (hfactory ▸ congrArg Prod.fst hbuilt)
      · cases makes
    · exact ih hlater

/-- Where an order is cut in front of a token, it is cut in front of a coding. -/
theorem exists_coding {layers : List Coding} {left rest : List String} {name : String}
    (split : layers.map Coding.token = left ++ name :: rest) :
    ∃ before coding after, layers = before ++ coding :: after ∧ before.map Coding.token = left ∧
      coding.token = name := by
  obtain ⟨before, others, hlayers, hbefore, hothers⟩ := List.map_eq_append_iff.mp split
  obtain ⟨coding, after, hsplit, hname, -⟩ := List.map_eq_cons_iff.mp hothers
  exact ⟨before, coding, after, hsplit ▸ hlayers, hbefore, hname⟩

/-- The construction of a chain is an opening, if the factories go by their checks. -/
theorem Constructs.opening {layers : List Coding} {start finish : P}
    {done : List (Invocation S F P)} {building : Building (Chain S)}
    (hget : ∀ coding, registry.get? coding.token = some (factoryOf coding))
    (hgoes : ∀ coding, GoesBy P S (factoryOf coding) (config.checkAll (parametersOf coding)))
    (h : Constructs registry (layers.map Coding.token) start done building finish) :
    Opening config parametersOf layers building.answer := by
  cases h with
  | built leads all =>
    refine .opens fun coding hcoding => CodecConfig.checkAll_eq_ok_iff.mp ?_
    exact leads.passed hget hgoes (all ▸ List.mem_map_of_mem hcoding)
  | unknown leads split unregistered =>
    obtain ⟨before, coding, after, -, -, rfl⟩ := exists_coding split
    cases unregistered.symm.trans (hget coding)
  | @refused chain port left name rest factory fault below leads split registered refuses =>
    obtain ⟨before, coding, after, hlayers, hbefore, rfl⟩ := exists_coding split
    obtain rfl := Option.some.inj (registered.symm.trans (hget coding))
    obtain ⟨error, hcheck, rfl⟩ := GoesBy.refused (hgoes coding) (congrArg Prod.fst refuses)
    obtain ⟨earlier, parameter, later, hchecks, hpassed, hbad, rfl⟩ :=
      CodecConfig.checkAll_eq_error_iff.mp hcheck
    have hcount : done.length = before.length := by
      have hlengths := congrArg List.length hbefore
      rw [List.length_map, List.length_map] at hlengths
      exact hlengths.symm
    rw [Building.answer, hcount]
    refine .fails hlayers (fun other hother => ?_) hchecks hpassed hbad
    exact CodecConfig.checkAll_eq_ok_iff.mp
      (leads.passed hget hgoes (hbefore ▸ List.mem_map_of_mem hother))
  | @crashed chain port left name rest factory below leads split registered breaksOff =>
    obtain ⟨before, coding, after, -, -, rfl⟩ := exists_coding split
    obtain rfl := Option.some.inj (registered.symm.trans (hget coding))
    exact absurd (congrArg Prod.fst breaksOff) (GoesBy.ne_crashed (hgoes coding))

end Checked

namespace Coding

variable {σ : Type} {config : CodecConfig} {parameters : List Parameter}
  {check : Except ConfigError Unit}

section Encoding

variable [Sink σ]

/-- A factory that always makes its layer goes by no checks. -/
theorem goesBy_always (encoder : Encoder) (first : encoder.State) :
    GoesBy (Outlet σ) Encoder.State (EncoderFactory.always encoder first) (.ok ()) :=
  fun _ _ => ⟨encoder, first, rfl⟩

/-- A factory that is asked only if a check passes goes by that check. -/
theorem goesBy_ifInRange (encoder : Encoder) (first : encoder.State)
    (hcheck : check = config.checkAll parameters) :
    GoesBy (Outlet σ) Encoder.State
      (ifInRange check EncoderFactory.refusing (.always encoder first))
      (config.checkAll parameters) := by
  subst hcheck
  intro depth stack outlet
  cases config.checkAll parameters with
  | ok _ => exact ⟨encoder, first, rfl⟩
  | error error => rfl

/-- The factories of the encoding layers go by the checks of the parameters that these use. -/
theorem encoderFactory_goesBy (patience : Nat) (config : CodecConfig) (coding : Coding) :
    GoesBy (Outlet σ) Encoder.State (coding.encoderFactory patience config)
      (config.checkAll coding.encodingParameters) := by
  cases coding with
  | blank => exact goesBy_always _ _
  | identity => exact goesBy_always _ _
  | gzip => exact goesBy_ifInRange _ _ CodecConfig.checkFlate_eq
  | zlib => exact goesBy_ifInRange _ _ CodecConfig.checkFlate_eq
  | deflate => exact goesBy_ifInRange _ _ CodecConfig.checkFlate_eq
  | zstd => exact goesBy_ifInRange _ _ CodecConfig.checkZstd_eq
  | compress => exact goesBy_ifInRange _ _ CodecConfig.checkBuffer_eq
  | br =>
    refine goesBy_ifInRange _ _ ?_
    have hsplit : encodingParameters br = [.brotliQuality, .brotliWindow] ++ [.bufferSize] := rfl
    rw [hsplit, CodecConfig.checkAll_append, ← CodecConfig.checkBrotli_eq,
      ← CodecConfig.checkBuffer_eq]
    cases CodecConfig.checkBrotli config.brotliQuality config.brotliWindow <;> rfl

end Encoding

section Decoding

variable [Source σ]

/-- A factory that always makes its layer goes by no checks. -/
theorem decoder_goesBy_always (decoder : Decoder) (first : decoder.State) :
    GoesBy (Inlet σ) Decoder.State (DecoderFactory.always decoder first) (.ok ()) :=
  fun _ _ => ⟨decoder, first, rfl⟩

/-- A factory that is asked only if a check passes goes by that check. -/
theorem decoder_goesBy_ifInRange (decoder : Decoder) (first : decoder.State)
    (hcheck : check = config.checkAll parameters) :
    GoesBy (Inlet σ) Decoder.State
      (ifInRange check DecoderFactory.refusing (.always decoder first))
      (config.checkAll parameters) := by
  subst hcheck
  intro depth stack inlet
  cases config.checkAll parameters with
  | ok _ => exact ⟨decoder, first, rfl⟩
  | error error => rfl

/-- Whatever the header is, a gzip layer is made. -/
theorem gzipFactory_goesBy (patience : Nat) :
    GoesBy (Inlet σ) Decoder.State (Gzip.decoderFactory patience) (.ok ()) := by
  intro depth stack inlet
  simp only [Medium.construct, Gzip.decoderFactory, Pull.map, Pull.run_bind]
  split <;> exact ⟨_, _, rfl⟩

/-- The factories of the decoding layers go by the checks of the parameters that these use. -/
theorem decoderFactory_goesBy (patience : Nat) (config : CodecConfig) (coding : Coding) :
    GoesBy (Inlet σ) Decoder.State (coding.decoderFactory patience config)
      (config.checkAll coding.decodingParameters) := by
  cases coding with
  | blank => exact decoder_goesBy_always _ _
  | identity => exact decoder_goesBy_always _ _
  | gzip => exact gzipFactory_goesBy patience
  | zlib => exact decoder_goesBy_always _ _
  | deflate => exact decoder_goesBy_always _ _
  | zstd => exact decoder_goesBy_always _ _
  | br => exact decoder_goesBy_ifInRange _ _ CodecConfig.checkBuffer_eq
  | compress => exact decoder_goesBy_ifInRange _ _ CodecConfig.checkBuffer_eq

end Decoding

end Coding

/-- Opening a compressor over built-in codings goes by the parameters of their layers. -/
theorem Compressor.openOn_opening {σ : Type} [Sink σ] (sink : σ) (patience : Nat)
    (config : CodecConfig) (codings : List Coding) :
    Opening config Coding.encodingParameters (codings.filter (· ≠ .blank))
      (openOn sink (.ofConfig patience config) (codings.map Coding.token)).1 := by
  obtain ⟨done, building, finish, hconstructs, htells⟩ :=
    init_constructs sink (.ofConfig patience config) (codings.map Coding.token)
  rw [Coding.filter_tokens] at hconstructs
  have hopening := hconstructs.opening (Coding.get?_token (Coding.encoderFactory patience config))
    (Coding.encoderFactory_goesBy patience config)
  have hanswer : (openOn sink (.ofConfig patience config) (codings.map Coding.token)).1 =
      building.answer := by
    cases building with
    | built chain => exact htells.1
    | failed error => exact htells.1
    | crashed => exact htells.1
  exact hanswer ▸ hopening

/-- Opening a decompressor over built-in codings goes by the parameters of their layers. -/
theorem Decompressor.openOn_opening {σ : Type} [Source σ] (source : σ) (patience : Nat)
    (config : CodecConfig) (codings : List Coding) :
    Opening config Coding.decodingParameters (codings.filter (· ≠ .blank))
      (openOn source (.ofConfig patience config) (codings.map Coding.token)).1 := by
  obtain ⟨done, building, finish, hconstructs, htells⟩ :=
    init_constructs source (.ofConfig patience config) (codings.map Coding.token)
  rw [Coding.filter_tokens] at hconstructs
  have hopening := hconstructs.opening (Coding.get?_token (Coding.decoderFactory patience config))
    (Coding.decoderFactory_goesBy patience config)
  have hanswer : (openOn source (.ofConfig patience config) (codings.map Coding.token)).1 =
      building.answer := by
    cases building with
    | built chain => exact htells.1
    | failed error => exact htells.1
    | crashed => exact htells.1
  exact hanswer ▸ hopening

/-- A configuration is valid exactly if every parameter that a coding uses is in range. -/
theorem CodecConfig.validate_eq_ok_iff {config : CodecConfig} :
    config.validate = .ok () ↔
      ∀ coding : Coding, ∀ parameter ∈ coding.encodingParameters, parameter.InRange config := by
  rw [validate_eq, checkAll_eq_ok_iff]
  constructor
  · intro hall coding parameter _
    refine hall parameter ?_
    cases parameter <;> simp [Parameter.all]
  · intro hused parameter _
    cases parameter with
    | flateLevel => exact hused .gzip _ (by simp [Coding.encodingParameters])
    | brotliQuality => exact hused .br _ (by simp [Coding.encodingParameters])
    | brotliWindow => exact hused .br _ (by simp [Coding.encodingParameters])
    | zstdLevel => exact hused .zstd _ (by simp [Coding.encodingParameters])
    | bufferSize => exact hused .compress _ (by simp [Coding.encodingParameters])

/-- The decoding layers use the parameters of the encoding layers, or fewer. -/
theorem Coding.decodingParameters_subset (coding : Coding) :
    coding.decodingParameters ⊆ coding.encodingParameters := by
  cases coding <;> decide

/-- The decoding layers of an order use the buffer size alone, and only for br and compress. -/
theorem Coding.decoding_inRange_iff {config : CodecConfig} {codings : List Coding} :
    (∀ coding ∈ codings.filter (· ≠ blank), ∀ parameter ∈ coding.decodingParameters,
      parameter.InRange config) ↔
      (br ∈ codings ∨ compress ∈ codings → Parameter.bufferSize.InRange config) := by
  constructor
  · rintro hall (hbr | hcompress)
    · exact hall br (by simpa using hbr) _ (by simp [decodingParameters])
    · exact hall compress (by simpa using hcompress) _ (by simp [decodingParameters])
  · intro hbuffer coding hcoding parameter hparameter
    have hmem : coding ∈ codings := (List.mem_filter.mp hcoding).1
    cases coding with
    | br =>
      obtain rfl : parameter = .bufferSize := by simpa [decodingParameters] using hparameter
      exact hbuffer (.inl hmem)
    | compress =>
      obtain rfl : parameter = .bufferSize := by simpa [decodingParameters] using hparameter
      exact hbuffer (.inr hmem)
    | _ => cases hparameter

/-- Validation agrees with construction. Opening a compressor over any order of built-in codings and
blanks goes by the parameters that its encoding layers use: it succeeds exactly if all of them are in
range, and otherwise fails at the first layer that uses one out of range, with the first such
parameter in the order of its checks. The same holds of decompressors and decoding layers, which use
the buffer size alone. So a configuration is valid exactly if compressors open for every order, and
then decompressors open for every order, too. -/
theorem validation_agrees_with_construction (patience : Nat) (config : CodecConfig) :
    (∀ {σ : Type} [Sink σ] (sink : σ) (codings : List Coding),
      let opened :=
        (Compressor.openOn sink (.ofConfig patience config) (codings.map Coding.token)).1
      Opening config Coding.encodingParameters (codings.filter (· ≠ .blank)) opened ∧
      (opened = .done () ↔ ∀ coding ∈ codings, coding ≠ .blank →
        ∀ parameter ∈ coding.encodingParameters, parameter.InRange config)) ∧
    (∀ {σ : Type} [Source σ] (source : σ) (codings : List Coding),
      let opened :=
        (Decompressor.openOn source (.ofConfig patience config) (codings.map Coding.token)).1
      Opening config Coding.decodingParameters (codings.filter (· ≠ .blank)) opened ∧
      (opened ≠ .done () ↔ ¬Parameter.bufferSize.InRange config ∧
        (.br ∈ codings ∨ .compress ∈ codings))) ∧
    (∀ {σ : Type} [Sink σ] (sink : σ),
      config.validate = .ok () ↔ ∀ codings : List Coding,
        (Compressor.openOn sink (.ofConfig patience config) (codings.map Coding.token)).1 =
          .done ()) ∧
    (config.validate = .ok () → ∀ {σ : Type} [Source σ] (source : σ) (codings : List Coding),
      (Decompressor.openOn source (.ofConfig patience config) (codings.map Coding.token)).1 =
        .done ()) := by
  have hencoding {σ : Type} [Sink σ] (sink : σ) (codings : List Coding) :=
    Compressor.openOn_opening sink patience config codings
  have hdecoding {σ : Type} [Source σ] (source : σ) (codings : List Coding) :=
    Decompressor.openOn_opening source patience config codings
  refine ⟨fun sink codings => ⟨hencoding sink codings, ?_⟩,
    fun source codings => ⟨hdecoding source codings, ?_⟩, fun sink => ⟨?_, ?_⟩, ?_⟩
  · rw [(hencoding sink codings).eq_done_iff]
    simp [List.mem_filter]
  · rw [Ne, (hdecoding source codings).eq_done_iff, Coding.decoding_inRange_iff]
    tauto
  · intro hvalid codings
    rw [CodecConfig.validate_eq_ok_iff] at hvalid
    exact (hencoding sink codings).eq_done_iff.mpr fun coding _ => hvalid coding
  · intro hopens
    refine CodecConfig.validate_eq_ok_iff.mpr fun coding => ?_
    by_cases hblank : coding = .blank
    · subst hblank
      exact nofun
    · exact (hencoding sink [coding]).eq_done_iff.mp (hopens [coding]) coding (by simpa using hblank)
  · intro hvalid σ _ source codings
    rw [CodecConfig.validate_eq_ok_iff] at hvalid
    exact (hdecoding source codings).eq_done_iff.mpr fun coding _ parameter hparameter =>
      hvalid coding parameter (coding.decodingParameters_subset hparameter)

/-- With a level and a buffer size out of range, an order of a blank, identity, gzip and br fails at
gzip when encoding. Decoding goes by the buffer size alone and fails at br. -/
theorem two_bad_parameters_fail_at_different_layers :
    let config : CodecConfig := { flateLevel := 12, bufferSize := 100 }
    let order := ["", "identity", "gzip", "br"]
    (Compressor.openOn (#[] : Array UInt8) (.ofConfig 1 config) order).1 =
        .failed (.construction 1 "gzip"
          (.described .invalidInput "flate level 12 out of range 0..=9")) ∧
      (Decompressor.openOn ([] : Bytes) (.ofConfig 1 config) order).1 =
        .failed (.construction 2 "br"
          (.described .invalidInput "buffer size 100 out of range 512..=1048576")) := by
  intro config order
  let codings : List Coding := [.blank, .identity, .gzip, .br]
  obtain ⟨hencoding, hdecoding, -, -⟩ := validation_agrees_with_construction 1 config
  constructor
  · have hmessage : (Parameter.flateLevel.error config).message =
        "flate level 12 out of range 0..=9" := by decide
    have hfails := @Opening.fails config Coding.encodingParameters (codings.filter (· ≠ .blank))
      [.identity] [.br] .gzip [] [] .flateLevel rfl (by decide) rfl nofun (by decide)
    rw [hmessage] at hfails
    exact (hencoding #[] codings).1.unique hfails
  · have hmessage : (Parameter.bufferSize.error config).message =
        "buffer size 100 out of range 512..=1048576" := by decide
    have hfails := @Opening.fails config Coding.decodingParameters (codings.filter (· ≠ .blank))
      [.identity, .gzip] [] .br [] [] .bufferSize rfl (by decide) rfl nofun (by decide)
    rw [hmessage] at hfails
    exact (hdecoding [] codings).1.unique hfails

end ContentCoding
