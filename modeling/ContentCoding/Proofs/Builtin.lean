import ContentCoding.Builtin.Registry
import ContentCoding.Proofs.Frame

/-!
# What the built-in registries give

A registry of a list gives nothing that is not in the list, whatever is listed
twice. So every layer that comes of a built-in registry is one of the built-in
kinds, and each of these always exposes the layer that it wraps, also after it
has been finalized.
-/

namespace ContentCoding

universe u

namespace Registry

variable {F : Type u}

/-- An entry that is there after one is put in its place was there or is that one. -/
theorem mem_of_mem_insertEntry {name : String} {factory : F} {entries : List (String × F)}
    {entry : String × F} (h : entry ∈ (insertEntry name factory entries).2) :
    entry = (name, factory) ∨ entry ∈ entries := by
  induction entries with
  | nil => exact .inl (List.mem_singleton.mp h)
  | cons first rest ih =>
    rw [insertEntry] at h
    split at h
    · rcases List.mem_cons.mp h with h | h
      · exact .inl h
      · exact .inr (List.mem_cons_of_mem _ h)
    · split at h
      · exact List.mem_cons.mp h
      · rcases List.mem_cons.mp h with h | h
        · exact .inr (h ▸ List.mem_cons_self)
        · exact (ih h).imp_right (List.mem_cons_of_mem _)

/-- Under its name the entry that is put in its place is found, and under others what was there. -/
theorem find?_insertEntry (name : String) (factory : F) (entries : List (String × F))
    (other : String) :
    ((insertEntry name factory entries).2.find? (·.1 == other)).map Prod.snd =
      if name = other then some factory else (entries.find? (·.1 == other)).map Prod.snd := by
  induction entries with
  | nil => by_cases hother : name = other <;> simp [insertEntry, hother]
  | cons first rest ih =>
    rw [insertEntry]
    by_cases hfirst : first.1 = name
    · rw [if_pos hfirst, hfirst.symm]
      by_cases hother : first.1 = other <;> simp [hother]
    · rw [if_neg hfirst]
      by_cases hbefore : name < first.1
      · rw [if_pos hbefore]
        by_cases hother : name = other <;> simp [List.find?_cons, hother]
      · rw [if_neg hbefore]
        by_cases hother : first.1 = other
        · have hnot : name ≠ other := fun hsame => hfirst (hother.trans hsame.symm)
          simp [hother, hnot]
        · have hnot : (first.1 == other) = false := by simpa using hother
          simpa only [List.find?_cons, hnot] using ih

/-- A name that is entered stands for what it was entered with, and others for what they did. -/
theorem get?_insert (registry : Registry F) (name : String) (factory : F) (other : String) :
    (registry.insert name factory).get? other =
      if name = other then some factory else registry.get? other :=
  find?_insertEntry name factory registry.entries other

/-- The entries of a registry are entries of the list that it was made from. -/
theorem mem_of_mem_ofList {entries : List (String × F)} {entry : String × F}
    (h : entry ∈ (ofList entries).entries) : entry ∈ entries := by
  have hfold : ∀ (registry : Registry F), entry ∈ (entries.foldl
      (fun registry entry => registry.insert entry.1 entry.2) registry).entries →
      entry ∈ entries ∨ entry ∈ registry.entries := by
    clear h
    induction entries with
    | nil => exact fun _ h => .inr h
    | cons first rest ih =>
      intro registry h
      rcases ih _ h with hr | hr
      · exact .inl (List.mem_cons_of_mem _ hr)
      · rcases mem_of_mem_insertEntry hr with rfl | hr
        · exact .inl List.mem_cons_self
        · exact .inr hr
  exact (hfold empty h).resolve_right (by exact List.not_mem_nil)

/-- What a name stands for is an entry under that name. -/
theorem mem_of_get?_eq_some {registry : Registry F} {name : String} {factory : F}
    (h : registry.get? name = some factory) : (name, factory) ∈ registry.entries := by
  obtain ⟨⟨key, value⟩, hfind, rfl⟩ := Option.map_eq_some_iff.mp h
  have hkey : key = name := by simpa using List.find?_some hfind
  exact hkey ▸ List.mem_of_find?_eq_some hfind

end Registry

section Exposing

variable {K : Type 1} (S : K → Type) {F : Type 1} (P : Type) [LayerKind S]

/-- In every state the layer below can be reached through a layer of this kind. -/
def AlwaysExposes (kind : K) : Prop := ∀ state : S kind, LayerKind.exposes kind state = true

/-- A factory makes only layers that always expose the one below. -/
def MakesExposing [Medium S F P] (factory : F) : Prop :=
  ∀ {depth : Nat} (stack : Stack S depth) (port : P) (kind : K) (state : S kind),
    (Medium.construct factory stack port).1 = .built kind state → AlwaysExposes S kind

/-- A registry of factories that make only such layers makes only such layers. -/
theorem Registry.Makes.alwaysExposes [Medium S F P] {entries : List (String × F)}
    (he : ∀ entry ∈ entries, MakesExposing S P entry.2) {name : String} {kind : K}
    (h : (Registry.ofList entries).Makes S P name kind) : AlwaysExposes S kind := by
  obtain ⟨factory, hfactory, depth, stack, port, state, hmade⟩ := h
  have hentry := Registry.mem_of_mem_ofList (Registry.mem_of_get?_eq_some hfactory)
  exact he _ hentry stack port kind state hmade

end Exposing

namespace Coding

/-- What a name stands for in a registry of all codings is the factory of the coding with that
token. -/
theorem exists_of_get? {F : Type u} (factoryOf : Coding → F) {name : String} {factory : F}
    (h : (Registry.ofList (all.map fun coding => (coding.token, factoryOf coding))).get? name =
      some factory) : ∃ coding : Coding, coding.token = name ∧ factory = factoryOf coding := by
  have hentry := Registry.mem_of_mem_ofList (Registry.mem_of_get?_eq_some h)
  obtain ⟨coding, -, hsame⟩ := List.mem_map.mp hentry
  obtain ⟨htoken, hfactory⟩ := Prod.mk.inj hsame
  exact ⟨coding, htoken, hfactory.symm⟩

/-- The token of a coding stands for its factory in a registry of all codings. -/
theorem get?_token {F : Type u} (factoryOf : Coding → F) (coding : Coding) :
    (Registry.ofList (all.map fun coding => (coding.token, factoryOf coding))).get? coding.token =
      some (factoryOf coding) := by
  cases coding <;> simp [Registry.ofList, all, Registry.get?_insert, token]

/-- What holds of a factory, and of one that always refuses, holds of the factory that is
asked if a parameter is in range. -/
theorem of_ifInRange {α : Type 1} (p : α → Prop) {check : Except ConfigError Unit}
    {refuse : Fault → α} {make : α} (hrefuse : ∀ fault, p (refuse fault)) (hmake : p make) :
    p (ifInRange check refuse make) := by
  cases check with
  | ok value => exact hmake
  | error error => exact hrefuse _

section Encoding

variable {σ : Type} [Sink σ]

/-- The factory of a layer that exposes in every state makes only such layers. -/
theorem encoder_always {encoder : Encoder} {first : encoder.State}
    (he : AlwaysExposes Encoder.State encoder) :
    MakesExposing Encoder.State (Outlet σ) (EncoderFactory.always encoder first) := by
  intro depth stack outlet kind state h
  cases h
  exact he

/-- Under a check of its parameters such a factory is one still. -/
theorem encoder_ifInRange {check : Except ConfigError Unit} {factory : EncoderFactory}
    (hf : MakesExposing Encoder.State (Outlet σ) factory) :
    MakesExposing Encoder.State (Outlet σ)
      (ifInRange check EncoderFactory.refusing factory) := by
  refine of_ifInRange (MakesExposing Encoder.State (Outlet σ)) ?_ hf
  intro fault depth stack outlet kind state h
  cases h

/-- Every layer that a built-in encoding factory makes exposes the one below. -/
theorem encoderFactory_exposes (patience : Nat) (config : CodecConfig) (coding : Coding) :
    MakesExposing Encoder.State (Outlet σ) (coding.encoderFactory patience config) := by
  cases coding with
  | blank => exact encoder_always fun _ => rfl
  | identity => exact encoder_always fun _ => rfl
  | gzip => exact encoder_ifInRange (encoder_always fun _ => rfl)
  | zlib => exact encoder_ifInRange (encoder_always fun _ => rfl)
  | br => exact encoder_ifInRange (encoder_always fun _ => rfl)
  | deflate => exact encoder_ifInRange (encoder_always fun _ => rfl)
  | compress => exact encoder_ifInRange (encoder_always fun _ => rfl)
  | zstd => exact encoder_ifInRange (encoder_always fun _ => rfl)

end Encoding

section Decoding

variable {σ : Type} [Source σ]

/-- The factory of a layer that exposes in every state makes only such layers. -/
theorem decoder_always {decoder : Decoder} {first : decoder.State}
    (hd : AlwaysExposes Decoder.State decoder) :
    MakesExposing Decoder.State (Inlet σ) (DecoderFactory.always decoder first) := by
  intro depth stack inlet kind state h
  cases h
  exact hd

/-- Under a check of its parameters such a factory is one still. -/
theorem decoder_ifInRange {check : Except ConfigError Unit} {factory : DecoderFactory}
    (hf : MakesExposing Decoder.State (Inlet σ) factory) :
    MakesExposing Decoder.State (Inlet σ)
      (ifInRange check DecoderFactory.refusing factory) := by
  refine of_ifInRange (MakesExposing Decoder.State (Inlet σ)) ?_ hf
  intro fault depth stack inlet kind state h
  cases h

/-- The factory that reads a gzip header makes the same kind of layer whatever comes of it. -/
theorem gzipFactory_exposes (patience : Nat) :
    MakesExposing Decoder.State (Inlet σ) (Gzip.decoderFactory patience) := by
  intro depth stack inlet kind state h
  simp only [Medium.construct, Gzip.decoderFactory, Pull.map, Pull.run_bind] at h
  split at h <;> cases h <;> exact fun _ => rfl

/-- Every layer that a built-in decoding factory makes exposes the one below. -/
theorem decoderFactory_exposes (patience : Nat) (config : CodecConfig) (coding : Coding) :
    MakesExposing Decoder.State (Inlet σ) (coding.decoderFactory patience config) := by
  cases coding with
  | blank => exact decoder_always fun _ => rfl
  | identity => exact decoder_always fun _ => rfl
  | gzip => exact gzipFactory_exposes patience
  | zlib => exact decoder_always fun _ => rfl
  | br => exact decoder_ifInRange (decoder_always fun _ => rfl)
  | deflate => exact decoder_always fun _ => rfl
  | compress => exact decoder_ifInRange (decoder_always fun _ => rfl)
  | zstd => exact decoder_always fun _ => rfl

end Decoding

end Coding

/-- Layers of the built-in encoding registries always expose the one below. -/
theorem EncoderRegistry.makes_exposing {σ : Type} [Sink σ] {patience : Nat}
    {config : CodecConfig} {name : String} {encoder : Encoder}
    (h : (ofConfig patience config).Makes Encoder.State (Outlet σ) name encoder) :
    AlwaysExposes Encoder.State encoder := by
  refine Registry.Makes.alwaysExposes _ _ (List.forall_mem_map.mpr fun coding _ => ?_) h
  exact coding.encoderFactory_exposes patience config

/-- Layers of the built-in decoding registries always expose the one below. -/
theorem DecoderRegistry.makes_exposing {σ : Type} [Source σ] {patience : Nat}
    {config : CodecConfig} {name : String} {decoder : Decoder}
    (h : (ofConfig patience config).Makes Decoder.State (Inlet σ) name decoder) :
    AlwaysExposes Decoder.State decoder := by
  refine Registry.Makes.alwaysExposes _ _ (List.forall_mem_map.mpr fun coding _ => ?_) h
  exact coding.decoderFactory_exposes patience config

end ContentCoding
