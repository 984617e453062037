import ContentCoding.Proofs.Builtin
import ContentCoding.Proofs.TextOrder
import Mathlib.Data.List.Forall2
import Mathlib.Data.String.Basic

/-!
# Registries over their histories

A caller has some registries at hand, edits them and clones them. What can be seen of one of them
follows from its own history alone, in which a clone begins with that of its original: under a name
stands the factory that was registered last, unless the name has been removed since.

The invariant is that the entries are in order. One change keeps it, and from it every way of asking
a registry for a name comes to the same, and a change tells what the name stood for before. The main
statement is about all registries at hand after any edits.
-/

namespace ContentCoding

universe u v w

namespace Registry

variable {F : Type u}

/-- A change to a registry. -/
inductive Change (F : Type u) : Type u
  /-- A name is entered, or what it stands for is replaced. -/
  | register (name : String) (factory : F)
  /-- A name is taken out. -/
  | remove (name : String)

/-- The name that a change is about. -/
def Change.name : Change F → String
  | .register name _ => name
  | .remove name => name

/-- What the name of a change stands for afterwards. -/
def Change.given : Change F → Option F
  | .register _ factory => some factory
  | .remove _ => none

/-- Make a change. The result holds what its name stood for before. -/
def change (registry : Registry F) : Change F → Option F × Registry F
  | .register name factory => registry.register name factory
  | .remove name => registry.remove name

/-- The names are in increasing order. -/
def Ordered (registry : Registry F) : Prop :=
  registry.entries.Pairwise fun entry later => entry.1 < later.1

/-- After a history, oldest change first, a name stands for a factory: this was registered under it,
and no later change is about the name. -/
def StandsFor (past : List (Change F)) (name : String) (factory : F) : Prop :=
  ∃ before after, past = before ++ .register name factory :: after ∧
    ∀ later ∈ after, later.name ≠ name

/-! ### One registry -/

/-- After one change more its name stands for what it gave, and other names for what they did. -/
theorem standsFor_append {past : List (Change F)} {last : Change F} {name : String} {factory : F} :
    StandsFor (past ++ [last]) name factory ↔
      if last.name = name then last.given = some factory else StandsFor past name factory := by
  constructor
  · rintro ⟨before, after, hpast, hlater⟩
    rcases List.eq_nil_or_concat after with rfl | ⟨after, latest, rfl⟩
    · obtain ⟨-, hlast⟩ := List.append_inj' hpast rfl
      obtain rfl := List.singleton_inj.mp hlast
      exact (if_pos rfl).mpr rfl
    · rw [List.concat_eq_append, ← List.cons_append, ← List.append_assoc] at hpast
      obtain ⟨hbefore, hlast⟩ := List.append_inj' hpast rfl
      obtain rfl := List.singleton_inj.mp hlast
      rw [List.concat_eq_append] at hlater
      have hother : last.name ≠ name := hlater last (by simp)
      rw [if_neg hother]
      exact ⟨before, after, hbefore, fun later hmem => hlater later (by simp [hmem])⟩
  · intro h
    split at h
    · rename_i hname
      cases last with
      | register other given =>
        obtain rfl : other = name := hname
        obtain rfl : given = factory := Option.some.inj h
        exact ⟨past, [], rfl, nofun⟩
      | remove other => cases h
    · rename_i hother
      obtain ⟨before, after, rfl, hlater⟩ := h
      refine ⟨before, after ++ [last], by simp, fun later hmem => ?_⟩
      rcases List.mem_append.mp hmem with hold | hnew
      · exact hlater later hold
      · rw [List.mem_singleton.mp hnew]
        exact hother

/-- Putting an entry in its place keeps the order. -/
theorem pairwise_insertEntry (name : String) (factory : F) {entries : List (String × F)}
    (h : entries.Pairwise fun entry later => entry.1 < later.1) :
    (insertEntry name factory entries).2.Pairwise fun entry later => entry.1 < later.1 := by
  induction entries with
  | nil => exact List.pairwise_singleton _ _
  | cons first rest ih =>
    obtain ⟨hfirst, hrest⟩ := List.pairwise_cons.mp h
    rw [insertEntry]
    by_cases hsame : first.1 = name
    · rw [if_pos hsame]
      refine List.pairwise_cons.mpr ⟨fun later hmem => ?_, hrest⟩
      exact hsame ▸ hfirst later hmem
    · rw [if_neg hsame]
      by_cases hbefore : name < first.1
      · rw [if_pos hbefore]
        refine List.pairwise_cons.mpr ⟨fun later hmem => ?_, h⟩
        rcases List.mem_cons.mp hmem with rfl | hmem
        · exact hbefore
        · exact lt_trans hbefore (hfirst later hmem)
      · rw [if_neg hbefore]
        refine List.pairwise_cons.mpr ⟨fun later hmem => ?_, ih hrest⟩
        rcases mem_of_mem_insertEntry hmem with rfl | hmem
        · exact lt_of_le_of_ne (not_lt.mp hbefore) hsame
        · exact hfirst later hmem

/-- What is replaced is what stood under the name: behind a greater name it cannot stand. -/
theorem insertEntry_fst (name : String) (factory : F) {entries : List (String × F)}
    (h : entries.Pairwise fun entry later => entry.1 < later.1) :
    (insertEntry name factory entries).1 = (entries.find? (·.1 == name)).map Prod.snd := by
  induction entries with
  | nil => rfl
  | cons first rest ih =>
    obtain ⟨hfirst, hrest⟩ := List.pairwise_cons.mp h
    rw [insertEntry]
    by_cases hsame : first.1 = name
    · rw [if_pos hsame]
      simp [hsame]
    · have hnot : (first.1 == name) = false := by simpa using hsame
      rw [if_neg hsame, List.find?_cons, hnot]
      by_cases hbefore : name < first.1
      · have hnone : rest.find? (·.1 == name) = none := by
          refine List.find?_eq_none.mpr fun later hmem => ?_
          have hless : name < later.1 := lt_trans hbefore (hfirst later hmem)
          simpa using hless.ne'
        rw [if_pos hbefore]
        simp [hnone]
      · rw [if_neg hbefore]
        exact ih hrest

/-- A change keeps the order. -/
theorem Ordered.change {registry : Registry F} (h : registry.Ordered) (change : Change F) :
    (registry.change change).2.Ordered := by
  cases change with
  | register name factory => exact pairwise_insertEntry name factory h
  | remove name => exact h.filter _

/-- A change tells what its name stood for. -/
theorem Ordered.change_fst {registry : Registry F} (h : registry.Ordered) (change : Change F) :
    (registry.change change).1 = registry.get? change.name := by
  cases change with
  | register name factory => exact insertEntry_fst name factory h
  | remove name => rfl

/-- After a change its name stands for what it gave, and other names for what they did. -/
theorem get?_change (registry : Registry F) (change : Change F) (name : String) :
    (registry.change change).2.get? name =
      if change.name = name then change.given else registry.get? name := by
  cases change with
  | register other factory => exact get?_insert registry other factory name
  | remove other =>
    have hremove : (registry.change (.remove other)).2.get? name =
        ((registry.entries.filter (·.1 != other)).find? (·.1 == name)).map Prod.snd := rfl
    rw [hremove, List.find?_filter, Change.name, Change.given]
    by_cases hother : other = name
    · have hnone : registry.entries.find? (fun entry =>
          decide ((entry.1 != other) = true ∧ (entry.1 == name) = true)) = none := by
        refine List.find?_eq_none.mpr fun entry _ => ?_
        simp [hother]
      rw [hnone, if_pos hother]
      rfl
    · have hsame : (fun entry : String × F =>
          decide ((entry.1 != other) = true ∧ (entry.1 == name) = true)) =
            fun entry => entry.1 == name := by
        funext entry
        by_cases hname : entry.1 = name
        · simp [hname, Ne.symm hother]
        · simp [hname]
      rw [hsame, if_neg hother]
      rfl

/-- A name is listed if it stands for something. -/
theorem mem_names_iff {registry : Registry F} {name : String} :
    name ∈ registry.names ↔ (registry.get? name).isSome = true := by
  simp [get?, names, List.find?_isSome]

/-- A registry gives a name for contained if it is listed. -/
theorem contains_iff {registry : Registry F} {name : String} :
    registry.contains name = true ↔ name ∈ registry.names := by
  simp [contains, names]

/-- Looking a name up finds what it stands for. -/
theorem lookup_eq_ok_iff {registry : Registry F} {index : Nat} {name : String} {factory : F} :
    registry.lookup index name = .ok factory ↔ registry.get? name = some factory := by
  rw [lookup]
  cases registry.get? name <;> simp

/-- An unknown name is reported with the index that it was looked up for. -/
theorem lookup_of_not_mem {registry : Registry F} {name : String} (h : name ∉ registry.names)
    (index : Nat) : registry.lookup index name = .error (.unsupported index name) := by
  rw [mem_names_iff, Option.isSome_iff_ne_none, not_not] at h
  rw [lookup, h]

/-- A registry and the history that it follows. All that can be asked of the registry is here: it
behaves as a finite map, and its history tells which. -/
structure Follows (past : List (Change F)) (registry : Registry F) : Prop where
  /-- The names are listed in the order of their bytes. -/
  increasing : (registry.names.map Bytes.ofText).Pairwise (· < ·)
  /-- No name is listed twice. -/
  distinct : registry.names.Nodup
  /-- The size is the number of names. -/
  size_eq : registry.size = registry.names.length
  /-- A registry is empty if its size is zero. -/
  isEmpty_iff : registry.isEmpty = true ↔ registry.size = 0
  /-- The listed names are those that are contained. -/
  contains_iff : ∀ name, registry.contains name = true ↔ name ∈ registry.names
  /-- They are those that stand for something. -/
  get_iff : ∀ name, (registry.get? name).isSome = true ↔ name ∈ registry.names
  /-- They are those that can be looked up. -/
  lookup_iff : ∀ index name, (∃ factory, registry.lookup index name = .ok factory) ↔
    name ∈ registry.names
  /-- Looking up gives what the name stands for. -/
  lookup_eq : ∀ index name factory, registry.lookup index name = .ok factory ↔
    registry.get? name = some factory
  /-- Looking up any other name is an error with the index and the name. -/
  unsupported : ∀ index name, name ∉ registry.names →
    registry.lookup index name = .error (.unsupported index name)
  /-- A name stands for what its history says. -/
  found : ∀ name factory, registry.get? name = some factory ↔ StandsFor past name factory
  /-- A change gives a previous factory if its name was listed. -/
  previous_iff : ∀ change, (registry.change change).1.isSome = true ↔ change.name ∈ registry.names
  /-- It is the one that the name stood for. -/
  previous_eq : ∀ change, (registry.change change).1 = registry.get? change.name
  /-- Every other name stands for what it did. -/
  others : ∀ change name, name ≠ change.name →
    (registry.change change).2.get? name = registry.get? name

/-- The invariant of a registry with a history: the entries are in order, and the names stand for
what the history says. -/
def Tracks (past : List (Change F)) (registry : Registry F) : Prop :=
  registry.Ordered ∧ ∀ name factory, registry.get? name = some factory ↔ StandsFor past name factory

/-- The empty registry has no history. -/
theorem tracks_empty : Tracks [] (empty : Registry F) := by
  refine ⟨List.Pairwise.nil, fun name factory => ⟨nofun, ?_⟩⟩
  rintro ⟨before, after, hpast, -⟩
  simp at hpast

/-- A change goes into the history. -/
theorem Tracks.change {past : List (Change F)} {registry : Registry F} (h : Tracks past registry)
    (change : Change F) : Tracks (past ++ [change]) (registry.change change).2 := by
  refine ⟨h.1.change change, fun name factory => ?_⟩
  rw [get?_change, standsFor_append]
  split
  · rfl
  · exact h.2 name factory

/-- The history of a registry of a list begins with the entries. -/
theorem tracks_ofList (entries : List (String × F)) :
    Tracks (entries.map fun entry => .register entry.1 entry.2) (ofList entries) := by
  induction entries using List.reverseRecOn with
  | nil => exact tracks_empty
  | append_singleton entries last ih =>
    rw [ofList, List.foldl_append, List.map_append]
    exact ih.change (.register last.1 last.2)

/-- So does that of a registry of all codings. -/
theorem tracks_registered (factoryOf : Coding → F) :
    Tracks (Coding.all.map fun coding => .register coding.token (factoryOf coding))
      (ofList (Coding.all.map fun coding => (coding.token, factoryOf coding))) := by
  have htracks := tracks_ofList (Coding.all.map fun coding => (coding.token, factoryOf coding))
  rwa [List.map_map] at htracks

/-- What the invariant tells of a registry. -/
theorem Tracks.follows {past : List (Change F)} {registry : Registry F} (h : Tracks past registry) :
    Follows past registry where
  increasing := by
    rw [names, List.map_map]
    exact List.pairwise_map.mpr (h.1.imp fun hless => Bytes.ofText_lt hless)
  distinct := List.pairwise_map.mpr (h.1.imp fun hless => hless.ne)
  size_eq := (List.length_map _).symm
  isEmpty_iff := by rw [isEmpty, List.isEmpty_iff, size, List.length_eq_zero_iff]
  contains_iff _ := contains_iff
  get_iff _ := mem_names_iff.symm
  lookup_iff index name := by
    rw [mem_names_iff, Option.isSome_iff_exists]
    exact exists_congr fun factory => lookup_eq_ok_iff
  lookup_eq _ _ _ := lookup_eq_ok_iff
  unsupported index _ hname := lookup_of_not_mem hname index
  found := h.2
  previous_iff change := by rw [h.1.change_fst, mem_names_iff]
  previous_eq := h.1.change_fst
  others change name hname := by rw [get?_change, if_neg (Ne.symm hname)]

/-! ### Registries at hand -/

/-- What a caller does with the registries at hand. -/
inductive Edit (F : Type u) : Type u
  /-- The one at a place is changed. -/
  | amend (place : Nat) (change : Change F)
  /-- A copy of the one at a place is put behind the others. -/
  | clone (place : Nat)

namespace Edit

variable {α : Type v} {β : Type w}

/-- Carry out an edit on things of some kind, given what a change does to one of them. -/
def perform (step : Change F → α → α) (things : List α) : Edit F → List α
  | .amend place change => things.modify place (step change)
  | .clone place => things ++ things[place]?.toList

/-- Carry out edits one after another. -/
def performAll (step : Change F → α → α) (edits : List (Edit F)) (things : List α) : List α :=
  edits.foldl (perform step) things

/-- An edit that does not change the thing at a place. -/
def Spares (place : Nat) : Edit F → Prop
  | .amend other _ => other ≠ place
  | .clone _ => True

/-- What an edit spares stays as it was. -/
theorem Spares.perform {step : Change F → α → α} {things : List α} {place : Nat} {edit : Edit F}
    (h : edit.Spares place) (hplace : place < things.length) :
    (edit.perform step things)[place]? = things[place]? := by
  cases edit with
  | amend other change =>
    have hother : other ≠ place := h
    simp [Edit.perform, hother]
  | clone other => exact List.getElem?_append_left hplace

/-- So does what all edits spare. -/
theorem performAll_spared {step : Change F → α → α} {place : Nat} {edits : List (Edit F)}
    (h : ∀ edit ∈ edits, edit.Spares place) {things : List α} (hplace : place < things.length) :
    (performAll step edits things)[place]? = things[place]? := by
  induction edits generalizing things with
  | nil => rfl
  | cons edit edits ih =>
    obtain ⟨hedit, hlater⟩ := List.forall_mem_cons.mp h
    have hlength : things.length ≤ (edit.perform step things).length := by
      cases edit with
      | amend other change =>
        rw [Edit.perform, List.length_modify]
      | clone other =>
        rw [Edit.perform, List.length_append]
        exact Nat.le_add_right _ _
    exact (ih hlater (Nat.lt_of_lt_of_le hplace hlength)).trans (hedit.perform hplace)

/-- Edits of two kinds of things side by side keep what a change of both keeps. -/
theorem forall₂_perform {relates : α → β → Prop} {step : Change F → α → α} {other : Change F → β → β}
    (hstep : ∀ change first second, relates first second →
      relates (step change first) (other change second)) (edit : Edit F) {firsts : List α}
    {seconds : List β} (h : List.Forall₂ relates firsts seconds) :
    List.Forall₂ relates (edit.perform step firsts) (edit.perform other seconds) := by
  cases edit with
  | amend place change =>
    induction h generalizing place with
    | nil => rw [perform, perform, List.modify_nil, List.modify_nil]; exact .nil
    | cons hfirst hrest ih =>
      cases place with
      | zero => exact .cons (hstep change _ _ hfirst) hrest
      | succ place => exact .cons hfirst (ih place)
  | clone place =>
    refine List.rel_append h ?_
    induction h generalizing place with
    | nil => exact .nil
    | cons hfirst hrest ih =>
      cases place with
      | zero => exact .cons hfirst .nil
      | succ place => exact ih place

end Edit

/-- The registries at hand after some edits. -/
def edited (edits : List (Edit F)) (registries : List (Registry F)) : List (Registry F) :=
  Edit.performAll (fun change registry => (registry.change change).2) edits registries

/-- Their histories. -/
def recorded (edits : List (Edit F)) (pasts : List (List (Change F))) : List (List (Change F)) :=
  Edit.performAll (fun change past => past ++ [change]) edits pasts

/-- Registries with histories keep to them, whatever edits are made. -/
theorem tracks_edited (edits : List (Edit F)) {pasts : List (List (Change F))}
    {registries : List (Registry F)} (h : List.Forall₂ Tracks pasts registries) :
    List.Forall₂ Tracks (recorded edits pasts) (edited edits registries) := by
  induction edits generalizing pasts registries with
  | nil => exact h
  | cons edit edits ih =>
    exact ih (edit.forall₂_perform (fun change _ _ hone => hone.change change) h)

end Registry

open Registry

/-- Where a registry at hand comes from. -/
inductive Origin
  /-- It begins without entries. -/
  | empty
  /-- It begins as a copy of the built-in one. -/
  | builtin
  /-- It begins with the built-in codings and configured parameters. -/
  | configured (config : CodecConfig)

namespace Origin

/-- Its parameters, if it begins with the built-in codings. -/
def parameters : Origin → Option CodecConfig
  | .empty => none
  | .builtin => some {}
  | .configured config => some config

/-- The history that it begins with: the built-in codings are registered one after another. -/
def past {F : Type u} (factoryOf : CodecConfig → Coding → F) (origin : Origin) :
    List (Change F) :=
  match origin.parameters with
  | none => []
  | some config => Coding.all.map fun coding => .register coding.token (factoryOf config coding)

/-- The registry of encoding layers. -/
def encoders (patience : Nat) : Origin → EncoderRegistry
  | .empty => .empty
  | .builtin => .builtin patience
  | .configured config => .ofConfig patience config

/-- The registry of decoding layers. -/
def decoders (patience : Nat) : Origin → DecoderRegistry
  | .empty => .empty
  | .builtin => .builtin patience
  | .configured config => .ofConfig patience config

/-- A registry of encoding layers begins with its history. -/
theorem tracks_encoders (patience : Nat) (origin : Origin) :
    Tracks (origin.past (Coding.encoderFactory patience)) (origin.encoders patience) := by
  cases origin with
  | empty => exact tracks_empty
  | builtin => exact tracks_registered _
  | configured config => exact tracks_registered _

/-- A registry of decoding layers begins with its history. -/
theorem tracks_decoders (patience : Nat) (origin : Origin) :
    Tracks (origin.past (Coding.decoderFactory patience)) (origin.decoders patience) := by
  cases origin with
  | empty => exact tracks_empty
  | builtin => exact tracks_registered _
  | configured config => exact tracks_registered _

end Origin

/-- Registries are finite maps over every history. Whatever a caller does with registries that begin
empty, as copies of the built-in one or with configured parameters, each of them follows its own
history. Edits leave those alone that they do not change: the originals of clones, and clones. -/
theorem registries_are_finite_maps (patience : Nat) (origins : List Origin) :
    (∀ edits later : List (Edit EncoderFactory),
      let registries := edited edits (origins.map (Origin.encoders patience))
      List.Forall₂ Follows
          (recorded edits (origins.map (Origin.past (Coding.encoderFactory patience)))) registries ∧
        ∀ place < registries.length, (∀ edit ∈ later, edit.Spares place) →
          (edited later registries)[place]? = registries[place]?) ∧
    (∀ edits later : List (Edit DecoderFactory),
      let registries := edited edits (origins.map (Origin.decoders patience))
      List.Forall₂ Follows
          (recorded edits (origins.map (Origin.past (Coding.decoderFactory patience)))) registries ∧
        ∀ place < registries.length, (∀ edit ∈ later, edit.Spares place) →
          (edited later registries)[place]? = registries[place]?) := by
  constructor
  · intro edits later registries
    have hbegin : List.Forall₂ Tracks (origins.map (Origin.past (Coding.encoderFactory patience)))
        (origins.map (Origin.encoders patience)) :=
      List.forall₂_map_left_iff.mpr (List.forall₂_map_right_iff.mpr
        (List.forall₂_same.mpr fun origin _ => origin.tracks_encoders patience))
    refine ⟨(tracks_edited edits hbegin).imp fun _ _ htracks => htracks.follows, ?_⟩
    exact fun place hplace hspares => Edit.performAll_spared hspares hplace
  · intro edits later registries
    have hbegin : List.Forall₂ Tracks (origins.map (Origin.past (Coding.decoderFactory patience)))
        (origins.map (Origin.decoders patience)) :=
      List.forall₂_map_left_iff.mpr (List.forall₂_map_right_iff.mpr
        (List.forall₂_same.mpr fun origin _ => origin.tracks_decoders patience))
    refine ⟨(tracks_edited edits hbegin).imp fun _ _ htracks => htracks.follows, ?_⟩
    exact fun place hplace hspares => Edit.performAll_spared hspares hplace

/-- A clone of the built-in registry loses two codings and gains a name, which only it shows. -/
theorem clone_edited_apart :
    let cloned := edited [.clone 0] [Origin.builtin.encoders 4]
    let later : List (Edit EncoderFactory) :=
      [.amend 1 (.remove ""), .amend 1 (.register "é" (.refusing (.bare .unsupported))),
        .amend 1 (.remove "gzip"), .clone 1]
    (0 < cloned.length ∧ ∀ edit ∈ later, edit.Spares 0) ∧
      (edited later cloned)[0]? = cloned[0]? ∧
      (edited later cloned).map Registry.names =
        [["", "br", "compress", "deflate", "gzip", "identity", "zlib", "zstd"],
          ["br", "compress", "deflate", "identity", "zlib", "zstd", "é"],
          ["br", "compress", "deflate", "identity", "zlib", "zstd", "é"]] := by
  intro cloned later
  have hlength : 0 < cloned.length := Nat.two_pos
  have hspares : ∀ edit ∈ later, edit.Spares 0 := by
    simp [later, Edit.Spares]
  exact ⟨⟨hlength, hspares⟩,
    ((registries_are_finite_maps 4 [.builtin]).1 [.clone 0] later).2 0 hlength hspares, by decide⟩

end ContentCoding
