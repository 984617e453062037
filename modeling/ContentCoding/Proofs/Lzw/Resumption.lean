import ContentCoding.Proofs.Builtin
import ContentCoding.Proofs.Lzw.Allowance
import ContentCoding.Proofs.Resumption
import ContentCoding.Scripted.Endpoint
import Mathlib.Order.Filter.AtTopBot.Basic

/-!
# Reading on after a fault through LZW layers

A fault from below meets an LZW layer between two calls of the decoder, when all input has been
taken and nothing is waiting for the caller but what the decoder itself has kept. The layer is left
with that decoder and an empty buffer, so when it is read again it reads below once more.

The main statement is that a persistent caller of a decompressor whose layers are LZW layers, and
layers that do nothing, misses nothing of a stream whose source fails some reads.
-/

namespace ContentCoding

namespace Coding

/-- Forwarding may be done again. -/
theorem identityDecoder_resumes : identityDecoder.Resumes := by
  intro state room
  refine ⟨fun fault => ⟨state, rfl, ?_⟩, fun bytes => trivial⟩
  exact Pull.outlastedBy_self _

/-- Forwarding allows what is allowed below. -/
theorem identityDecoder_allows {below above : Nat} (hle : below ≤ above) :
    identityDecoder.Allows () below above := by
  refine ⟨fun _ below above => below ≤ above, ?_, hle⟩
  intro calm state below above room hle answer rest hspends
  exact ⟨rest, hspends.mono hle, Nat.le_refl rest⟩

end Coding

namespace Lzw

variable {room patience reads : Nat}

/-- With more patience the layer goes the same way. -/
theorem readRounds_outlastedBy (buffer room : Nat) (hle : reads ≤ patience) (decoding : Decoding) :
    (readRounds buffer room reads decoding).OutlastedBy
      (readRounds buffer room patience decoding) := by
  induction reads generalizing patience decoding with
  | zero => exact .inl rfl
  | succ reads ih =>
    cases patience with
    | zero => omega
    | succ patience =>
      refine ⟨_, rfl, fun answer => ?_⟩
      cases answer with
      | error fault => exact .inr rfl
      | ok input =>
        dsimp only
        cases attempt room input.isEmpty decoding input with
        | answered answer state => exact .inr rfl
        | starved decoding => exact ih (by omega) decoding

/-- A layer that a fault has left reads below once more. -/
theorem readRounds_resumes (buffer : Nat) (hroom : 1 ≤ room) (hle : reads ≤ patience)
    (decoding : Decoding) :
    (readRounds buffer room reads decoding).Resumes fun state =>
      (decoder patience buffer).read state room := by
  induction reads generalizing decoding with
  | zero => trivial
  | succ reads ih =>
    refine ⟨fun fault => ⟨{ decoding }, rfl, ?_⟩, fun input => ?_⟩
    · have hagain : (decoder patience buffer).read { decoding } room =
          readRounds buffer room patience decoding := by
        have hzero : room ≠ 0 := by omega
        simp [decoder, ReaderState.serve, hzero]
      dsimp only
      rw [hagain]
      exact readRounds_outlastedBy buffer room hle decoding
    · dsimp only
      cases attempt room input.isEmpty decoding input with
      | answered answer state => trivial
      | starved decoding => exact ih (by omega) decoding

/-- In every state a read of the layer may be made again. -/
theorem decoder_resumes (patience buffer : Nat) : (decoder patience buffer).Resumes := by
  intro (state : ReaderState) room
  have hread : (decoder patience buffer).read state room =
      if room = 0 || state.done then .done (.ok [], state)
      else state.serve buffer room patience := rfl
  rw [hread]
  split
  · trivial
  · rename_i hserves
    have hroom : 1 ≤ room := by
      by_contra hnone
      have hzero : room = 0 := by omega
      simp [hzero] at hserves
    rw [ReaderState.serve]
    split
    · exact readRounds_resumes buffer hroom (Nat.le_refl patience) state.decoding
    · cases attempt room state.exhausted state.decoding state.input with
      | answered answer state => trivial
      | starved decoding => exact readRounds_resumes buffer hroom (Nat.le_refl patience) decoding

/-- How many bytes so many bytes can give. -/
def mostOfBytes (bytes : Nat) : Nat := mostOf 1 (8 * bytes)

/-- They can give as many at least. -/
theorem le_mostOfBytes (bytes : Nat) : bytes ≤ mostOfBytes bytes := by
  calc
    bytes ≤ 8 * bytes := Nat.le_mul_of_pos_left bytes (by decide)
    _ ≤ mostOfBytes bytes := Nat.le_mul_of_pos_right (8 * bytes) (Nat.add_pos_left Nat.one_pos _)

end Lzw

/-- Under their tokens a built-in registry has factories of layers that may be read again. -/
theorem Coding.decoderFactory_resumes {patience : Nat} {config : CodecConfig} {name : String}
    {factory : DecoderFactory} (hname : name = "identity" ∨ name = "compress")
    (h : (DecoderRegistry.ofConfig patience config).get? name = some factory) :
    factory.Resumes Lzw.mostOfBytes patience := by
  obtain ⟨coding, htoken, rfl⟩ := Coding.exists_of_get? _ h
  cases coding with
  | identity =>
    refine .inr ⟨identityDecoder, (), rfl, identityDecoder_resumes, fun below _ => ?_⟩
    exact identityDecoder_allows (Lzw.le_mostOfBytes below)
  | compress =>
    refine of_ifInRange (DecoderFactory.Resumes Lzw.mostOfBytes patience)
      (fun fault => .inl ⟨fault, rfl⟩) ?_
    refine .inr ⟨Lzw.decoder patience config.bufferSize.toNat, {}, rfl, Lzw.decoder_resumes _ _,
      fun below hbelow => ?_⟩
    exact Lzw.decoder_allows config.bufferSize.toNat hbelow
  | _ =>
    rw [← htoken] at hname
    simp [Coding.token] at hname

/-- A source that hands out so many bytes at a time hands out its bytes. -/
theorem ScriptedSource.givesAtMost_lasts (calm : Prop) (count : Nat) :
    Source.Lasts calm fun (source : ScriptedSource) allowance =>
      source.script = .givesAtMost count ∧ source.rest.length ≤ allowance := by
  intro ⟨script, rest, given, reads⟩ allowance room ⟨hscript, hrest⟩
  subst hscript
  refine ⟨(rest.drop (min room count)).length, ?_, rfl, Nat.le_refl _⟩
  have hle : (rest.take (min room count)).length + (rest.drop (min room count)).length ≤
      allowance := by
    rw [← List.length_append, List.take_append_drop]
    exact hrest
  exact hle

namespace Decompressor

/-- Reading on after faults loses nothing and repeats nothing. The layers are LZW layers and layers
that do nothing, the stream hands out a limited number of bytes in whatever pieces, and the source
fails reads on any schedule and with any faults. A caller that makes each read again as long as the
source fails is given in the end what the stream itself gives, be it bytes, the end or a fault, read
by read for any rooms. The failed reads give the faults of the source unchanged, each of them once.
All that takes patience enough for the bytes that may come of the stream, and then no read of the
stream itself lacks it. -/
theorem reads_resume_after_faults (config : CodecConfig) {σ : Type} [Source σ]
    {holds : σ → Nat → Prop} (hs : Source.Lasts True holds) {stream : σ} {allowance : Nat}
    (hstream : holds stream allowance) {order : List String}
    (horder : ∀ name ∈ order, name = "" ∨ name = "identity" ∨ name = "compress") :
    ∀ᶠ patience in Filter.atTop, ∀ (schedule : List (Option Fault)) (rooms : List Nat),
      let registry := DecoderRegistry.ofConfig patience config
      let plain := create stream registry order
      let failing := create (⟨stream, schedule⟩ : Failing σ) registry order
      let answers := replies insist failing rooms
      let final := serve insist failing rooms
      answers.map Prod.snd = replies read plain rooms ∧
      .failed (.bare .interrupted) ∉ replies read plain rooms ∧
      (∃ raised : List Fault, answers.flatMap Prod.fst = raised.map .failed ∧
        schedule.filterMap id = raised ++ final.due) ∧
      final.clear = serve read plain rooms := by
  filter_upwards [Filter.eventually_gt_atTop
    (Lzw.mostOfBytes^[(order.filter (· != "")).length] allowance)] with patience hpatience
  intro schedule rooms registry plain failing answers final
  have hnames : ∀ name ∈ order.filter (· != ""), ∀ factory, registry.get? name = some factory →
      factory.Resumes Lzw.mostOfBytes patience := by
    intro name hname factory hfactory
    obtain ⟨hmem, hne⟩ := List.mem_filter.mp hname
    have hsome : name ≠ "" := by simpa using hne
    exact Coding.decoderFactory_resumes ((horder name hmem).resolve_left hsome) hfactory
  have hready : failing.Resumable holds :=
    create_resumable Lzw.le_mostOfBytes hnames hstream hpatience schedule
  have hclear : failing.clear = plain := clear_create stream schedule registry order
  have hdueAll : failing.due = schedule.filterMap id := due_create stream schedule registry order
  obtain ⟨raised, hanswers, hcalm, hfaults, hdue, hfinal⟩ := hready.replies_insist hs rooms
  rw [hclear] at hanswers hcalm hfinal
  rw [hdueAll] at hdue
  exact ⟨hanswers, hcalm, ⟨raised, hfaults, hdue⟩, hfinal⟩

/-- The stream of a letter comes byte by byte, and the source fails between the bytes of its codes.
The letter and the end are read in spite of that, and the faults are reported one after another. -/
theorem letter_read_between_faults :
    let stream : ScriptedSource := { script := .givesAtMost 1, rest := [0x00, 0x83, 0x04, 0x04] }
    let order := ["compress", "", "identity"]
    let schedule : List (Option Fault) := [none, some (.described .timedOut "later"), none,
      some (.bare .interrupted), some (.described .invalidData "odd"), none]
    let holds (source : ScriptedSource) (allowance : Nat) : Prop :=
      source.script = .givesAtMost 1 ∧ source.rest.length ≤ allowance
    let plain (patience : Nat) := create stream (.ofConfig patience {}) order
    let failing (patience : Nat) :=
      create (⟨stream, schedule⟩ : Failing ScriptedSource) (.ofConfig patience {}) order
    Source.Lasts True holds ∧ holds stream 4 ∧
      (∀ name ∈ order, name = "" ∨ name = "identity" ∨ name = "compress") ∧
      (∀ᶠ patience in Filter.atTop, (replies insist (failing patience) [1, 1]).map Prod.snd =
        replies read (plain patience) [1, 1]) ∧
      replies insist (failing 4) [1, 1] =
        [([.failed (.described .timedOut "later"), .failed (.bare .interrupted),
          .failed (.described .invalidData "odd")], .done [65]), ([], .done [])] := by
  intro stream order schedule holds plain failing
  have hstream : holds stream 4 := ⟨rfl, by decide⟩
  have horder : ∀ name ∈ order, name = "" ∨ name = "identity" ∨ name = "compress" := by decide
  have hlasts : Source.Lasts True holds :=
    ScriptedSource.givesAtMost_lasts True 1
  refine ⟨hlasts, hstream, horder, ?_, by decide +kernel⟩
  filter_upwards [reads_resume_after_faults {} hlasts hstream horder] with patience hresumes
  exact (hresumes schedule [1, 1]).1

end Decompressor

end ContentCoding
