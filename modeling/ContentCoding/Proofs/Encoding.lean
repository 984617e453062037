import ContentCoding.Encode.Engine
import ContentCoding.Encode.Verified
import ContentCoding.Proofs.Transcription

/-!
# What encoders put out decodes

An encoder that takes data and is flushed in any order, and then finished, has put out
one stream. It encodes for a coding if the decoder of that coding takes all of the
stream, finds its end behind the last byte and no sooner, and gives the data.

The main statements are that a packer does so as an engine whatever the size of its
pieces is, and that a checked packer does whatever its search comes up with, as long as
the plain packer behind it can go on wherever checked output may stop.
-/

namespace ContentCoding

namespace Emission

/-- All that is put out if every piece is handed on, and the engine after that. -/
def whole {S : Type} : Emission S → Option (Bytes × S)
  | .done engine => some ([], engine)
  | .stuck _ => none
  | .put piece _ later => later.whole.map fun (output, engine) => (piece ++ output, engine)

end Emission

namespace Engine

variable (engine : Engine)

/-- What an engine puts out for a piece or a flush. -/
def feed (state : engine.State) : Feed → Emission engine.State
  | .piece data => engine.take state data
  | .flush => engine.flush state

/-- The rest of a stream, for a script and the end behind it. -/
def encodeFrom : engine.State → List Feed → Option Bytes
  | state, [] => (engine.finish state).whole.map Prod.fst
  | state, feed :: later =>
    (engine.feed state feed).whole.bind fun (output, state) =>
      (encodeFrom state later).map (output ++ ·)

variable {engine}

/-- The rest of a stream is what comes at its end, if that is all. -/
theorem encodeFrom_nil {state : engine.State} {encoded : Bytes} :
    engine.encodeFrom state [] = some encoded ↔
      ∃ last, (engine.finish state).whole = some (encoded, last) := by
  rw [encodeFrom, Option.map_eq_some_iff]
  exact ⟨fun ⟨⟨_, last⟩, h, hencoded⟩ => ⟨last, hencoded ▸ h⟩, fun ⟨last, h⟩ => ⟨_, h, rfl⟩⟩

/-- Otherwise it is what comes of the first piece or flush, and a rest behind that. -/
theorem encodeFrom_cons {state : engine.State} {feed : Feed} {later : List Feed} {encoded : Bytes} :
    engine.encodeFrom state (feed :: later) = some encoded ↔
      ∃ output next rest, (engine.feed state feed).whole = some (output, next) ∧
        engine.encodeFrom next later = some rest ∧ encoded = output ++ rest := by
  rw [encodeFrom, Option.bind_eq_some_iff]
  constructor
  · rintro ⟨⟨output, next⟩, hfirst, hlater⟩
    obtain ⟨rest, hrest, rfl⟩ := Option.map_eq_some_iff.mp hlater
    exact ⟨output, next, rest, hfirst, hrest, rfl⟩
  · rintro ⟨output, next, rest, hfirst, hrest, rfl⟩
    exact ⟨⟨output, next⟩, hfirst, Option.map_eq_some_iff.mpr ⟨rest, hrest, rfl⟩⟩

variable (engine)

/-- Whatever the engine takes and wherever it is flushed, the stream decodes to what was taken. -/
def Encodes (coding : Transducer) : Prop :=
  ∀ script, ∃ encoded, engine.encodeFrom engine.start script = some encoded ∧
    coding.toEnd coding.start encoded [] = some (Feed.content script)

/-- One flush more in front of the end changes nothing about that. -/
theorem Encodes.flushed {engine : Engine} {coding : Transducer} (h : engine.Encodes coding)
    (script : List Feed) :
    ∃ encoded, engine.encodeFrom engine.start (script ++ [.flush]) = some encoded ∧
      coding.toEnd coding.start encoded [] = some (Feed.content script) := by
  obtain ⟨encoded, hstream, hdecodes⟩ := h (script ++ [.flush])
  rw [Feed.content_append, Feed.content, Feed.content, List.append_nil] at hdecodes
  exact ⟨encoded, hstream, hdecodes⟩

end Engine

namespace Packer

variable (packer : Packer)

/-- The rest of the stream of a packer, for a script and the end behind it. -/
def encodeFrom : packer.State → List Feed → Bytes
  | state, [] => packer.finish state
  | state, .piece data :: later => encodeFrom (packer.take state data) later
  | state, .flush :: later => (packer.flush state).1 ++ encodeFrom (packer.flush state).2 later

/-- Output is cut into pieces that together are the output. -/
theorem whole_cut {S : Type} {size : Nat} (hsize : 1 ≤ size) (packing : S) {steps : Nat}
    {output : Bytes} (hsteps : output.length ≤ steps) :
    (cut size packing steps output).whole = some (output, ⟨packing, []⟩) := by
  induction steps generalizing output with
  | zero =>
    obtain rfl := List.length_eq_zero_iff.mp (Nat.le_zero.mp hsteps)
    rfl
  | succ steps ih =>
    cases output with
    | nil => rfl
    | cons byte output =>
      have hless : ((byte :: output).drop size).length ≤ steps := by
        rw [List.length_cons] at hsteps
        rw [List.length_drop, List.length_cons]
        omega
      have hcut : cut size packing (steps + 1) (byte :: output) =
          .put ((byte :: output).take size) ⟨packing, (byte :: output).drop size⟩
            (cut size packing steps ((byte :: output).drop size)) := rfl
      rw [hcut, Emission.whole, ih hless]
      exact congrArg (fun whole => some (whole, _)) (List.take_append_drop size (byte :: output))

/-- Around the stream of a packer comes what is put around it. -/
theorem wrap_encodeFrom (before : Bytes) (closing : Bytes → Bytes) (opening : Bytes)
    (data : Array UInt8) (inner : packer.State) (script : List Feed) :
    (packer.wrap before closing).encodeFrom ⟨opening, data, inner⟩ script =
      opening ++ packer.encodeFrom inner script ++ closing (data.toList ++ Feed.content script) := by
  induction script generalizing opening data inner with
  | nil =>
    rw [Feed.content, List.append_nil]
    rfl
  | cons feed later ih =>
    cases feed with
    | piece bytes =>
      have hdata : (data.appendList bytes).toList = data.toList ++ bytes := Array.toList_appendList
      have hlater := ih opening (data.appendList bytes) (packer.take inner bytes)
      rw [hdata, List.append_assoc data.toList] at hlater
      exact hlater
    | flush =>
      have hlater := ih [] data (packer.flush inner).2
      have hflush : (packer.wrap before closing).encodeFrom ⟨opening, data, inner⟩
          (.flush :: later) = opening ++ (packer.flush inner).1 ++
            (packer.wrap before closing).encodeFrom ⟨[], data, (packer.flush inner).2⟩ later := rfl
      rw [hflush, hlater, encodeFrom, Feed.content, List.nil_append]
      simp only [List.append_assoc]

variable {packer}

/-- As an engine a packer puts out the same stream. -/
theorem engine_encodeFrom {size : Nat} (hsize : 1 ≤ size) (state : packer.State)
    (script : List Feed) :
    (packer.engine size).encodeFrom ⟨state, []⟩ script = some (packer.encodeFrom state script) := by
  induction script generalizing state with
  | nil => exact Engine.encodeFrom_nil.mpr ⟨_, whole_cut hsize _ (Nat.le_refl _)⟩
  | cons feed later ih =>
    cases feed with
    | piece data =>
      exact Engine.encodeFrom_cons.mpr ⟨[], _, _, rfl, ih (packer.take state data), rfl⟩
    | flush =>
      exact Engine.encodeFrom_cons.mpr
        ⟨_, _, _, whole_cut hsize _ (Nat.le_refl _), ih (packer.flush state).2, rfl⟩

end Packer

namespace Transducer

variable {coding : Transducer} {place next : coding.State} {front back output before : Bytes}

/-- A byte in front of others that does not end the stream. -/
theorem through_cons {byte : UInt8} {more : Bytes}
    (h : coding.feed place byte = .running more next) (rest output : Bytes) :
    coding.through place (byte :: rest) output =
      coding.through next rest (more.reverseAux output) := by
  simp only [through, h]

/-- A stream that ends here has given what was passed along. -/
theorem of_toEnd_nil (h : coding.toEnd place [] before = some output) :
    coding.ending place = .ok () ∧ output = before.reverse := by
  rw [toEnd] at h
  split at h
  · rename_i hend
    exact ⟨hend, (Option.some.inj h).symm⟩
  · cases h

/-- A stream that does not end here goes on behind its first byte, or ends with it. -/
theorem of_toEnd_cons {byte : UInt8} {rest : Bytes}
    (h : coding.toEnd place (byte :: rest) before = some output) :
    (∃ more next, coding.feed place byte = .running more next ∧
      coding.toEnd next rest (more.reverseAux before) = some output) ∨
    ∃ more, coding.feed place byte = .finished more ∧ rest = [] ∧
      output = before.reverse ++ more := by
  rw [toEnd] at h
  cases hfeed : coding.feed place byte with
  | running more next =>
    rw [hfeed] at h
    exact .inl ⟨more, next, rfl, h⟩
  | finished more =>
    rw [hfeed] at h
    dsimp only at h
    split at h
    · rename_i hnone
      refine .inr ⟨more, rfl, List.isEmpty_iff.mp hnone, ?_⟩
      rw [← Option.some.inj h, Bytes.reverse_reverseAux]
    · cases h
  | failed failure =>
    rw [hfeed] at h
    cases h

/-- What a stream gives up to its end is what it decodes to. -/
theorem decodeFrom_of_toEnd {encoded : Bytes} (h : coding.toEnd place encoded before = some output) :
    ∃ more, output = before.reverse ++ more ∧ coding.decodeFrom place encoded = ⟨more, none⟩ := by
  induction encoded generalizing place before with
  | nil =>
    obtain ⟨hending, hall⟩ := of_toEnd_nil h
    rw [decodeFrom, hending]
    exact ⟨[], hall.trans (List.append_nil _).symm, rfl⟩
  | cons byte encoded ih =>
    rw [decodeFrom]
    obtain ⟨more, next, hfeed, hrest⟩ | ⟨more, hfeed, -, hall⟩ := of_toEnd_cons h
    · obtain ⟨later, hlater, hdecoded⟩ := ih hrest
      rw [Bytes.reverse_reverseAux, List.append_assoc] at hlater
      simp only [hfeed, hdecoded]
      exact ⟨more ++ later, hlater, rfl⟩
    · simp only [hfeed]
      exact ⟨more, hall, rfl⟩

/-- What is passed along comes in front of the output. -/
theorem through_onto (after : Bytes) (h : coding.through place back before = some (output, next)) :
    coding.through place back (before ++ after) = some (after.reverse ++ output, next) := by
  induction back generalizing place before with
  | nil =>
    obtain ⟨rfl, rfl⟩ := Prod.mk.inj (Option.some.inj h)
    exact congrArg (fun whole => some (whole, place)) List.reverse_append
  | cons byte back ih =>
    rw [through] at h ⊢
    cases hfeed : coding.feed place byte with
    | running more next =>
      simp only [hfeed] at h ⊢
      have hlater := ih h
      rwa [List.reverseAux_eq, List.append_assoc, ← List.reverseAux_eq] at hlater
    | finished more => simp only [hfeed, reduceCtorEq] at h
    | failed failure => simp only [hfeed, reduceCtorEq] at h

/-- What is passed along comes in front of the output, also if that is all. -/
theorem toEnd_onto (after : Bytes) (h : coding.toEnd place back before = some output) :
    coding.toEnd place back (before ++ after) = some (after.reverse ++ output) := by
  induction back generalizing place before with
  | nil =>
    rw [toEnd] at h ⊢
    cases hend : coding.ending place with
    | error failure => simp only [hend, reduceCtorEq] at h
    | ok _ =>
      simp only [hend, Option.some.injEq] at h ⊢
      rw [← h, List.reverse_append]
  | cons byte back ih =>
    rw [toEnd] at h ⊢
    cases hfeed : coding.feed place byte with
    | running more next =>
      simp only [hfeed] at h ⊢
      have hlater := ih h
      rwa [List.reverseAux_eq, List.append_assoc, ← List.reverseAux_eq] at hlater
    | finished more =>
      simp only [hfeed] at h ⊢
      cases hnone : back.isEmpty with
      | false => simp only [hnone, Bool.false_eq_true, if_false, reduceCtorEq] at h
      | true =>
        simp only [hnone, if_true, Option.some.injEq] at h ⊢
        rw [← h, List.reverseAux_eq, List.reverseAux_eq, ← List.append_assoc, List.reverse_append]
    | failed failure => simp only [hfeed, reduceCtorEq] at h

/-- Bytes that do not end the stream may be fed in two parts. -/
theorem through_append (h : coding.through place front before = some (output, next)) :
    coding.through place (front ++ back) before = coding.through next back output.reverse := by
  induction front generalizing place before with
  | nil =>
    obtain ⟨rfl, rfl⟩ := Prod.mk.inj (Option.some.inj h)
    rw [List.nil_append, List.reverse_reverse]
  | cons byte front ih =>
    rw [through] at h
    rw [List.cons_append, through]
    cases hfeed : coding.feed place byte with
    | running more next =>
      simp only [hfeed] at h ⊢
      exact ih h
    | finished more => simp only [hfeed, reduceCtorEq] at h
    | failed failure => simp only [hfeed, reduceCtorEq] at h

/-- A stream may be decoded in two parts. -/
theorem toEnd_append (h : coding.through place front before = some (output, next)) :
    coding.toEnd place (front ++ back) before = coding.toEnd next back output.reverse := by
  induction front generalizing place before with
  | nil =>
    obtain ⟨rfl, rfl⟩ := Prod.mk.inj (Option.some.inj h)
    rw [List.nil_append, List.reverse_reverse]
  | cons byte front ih =>
    rw [through] at h
    rw [List.cons_append, toEnd]
    cases hfeed : coding.feed place byte with
    | running more next =>
      simp only [hfeed] at h ⊢
      exact ih h
    | finished more => simp only [hfeed, reduceCtorEq] at h
    | failed failure => simp only [hfeed, reduceCtorEq] at h

/-- Two parts give what each of them does. -/
theorem through_through {last : coding.State} {data more : Bytes}
    (h : coding.through place front [] = some (data, next))
    (hrest : coding.through next back [] = some (more, last)) :
    coding.through place (front ++ back) [] = some (data ++ more, last) := by
  have hall := through_onto data.reverse hrest
  rw [through_append h]
  rwa [List.nil_append, List.reverse_reverse] at hall

/-- A first part that gives some data, and a rest that decodes to the others. -/
theorem toEnd_through {data more : Bytes} (h : coding.through place front [] = some (data, next))
    (hrest : coding.toEnd next back [] = some more) :
    coding.toEnd place (front ++ back) [] = some (data ++ more) := by
  have hall := toEnd_onto data.reverse hrest
  rw [toEnd_append h]
  rwa [List.nil_append, List.reverse_reverse] at hall

/-- Data that are cut into pieces of a greatest length go through piece by piece, if each piece leads
from a place of some kind to another. -/
theorem through_cut {stands : coding.State → Prop} {block cut : Bytes → Bytes} {most : Nat}
    (hmost : 0 < most) (hnone : cut [] = [])
    (hcut : ∀ data, data ≠ [] → cut data = block (data.take most) ++ cut (data.drop most))
    (hblock : ∀ place data, stands place → data ≠ [] → data.length ≤ most →
      ∃ next, coding.through place (block data) [] = some (data, next) ∧ stands next)
    (data : Bytes) {place : coding.State} (hstands : stands place) :
    ∃ next, coding.through place (cut data) [] = some (data, next) ∧ stands next := by
  by_cases hempty : data = []
  · subst hempty
    rw [hnone]
    exact ⟨place, rfl, hstands⟩
  · have hlength := List.length_pos_iff.mpr hempty
    have hpiece : data.take most ≠ [] := by
      rw [Ne, List.take_eq_nil_iff]
      exact fun hnil => hnil.elim (Nat.ne_of_gt hmost) hempty
    have hshorter : (data.drop most).length < data.length := by
      rw [List.length_drop]
      omega
    obtain ⟨between, hfirst, hbetween⟩ :=
      hblock place (data.take most) hstands hpiece (List.length_take_le ..)
    obtain ⟨next, hrest, hnext⟩ := through_cut hmost hnone hcut hblock (data.drop most) hbetween
    have hall := through_through hfirst hrest
    rw [List.take_append_drop] at hall
    rw [hcut data hempty]
    exact ⟨next, hall, hnext⟩
termination_by data.length
decreasing_by exact hshorter

end Transducer

namespace Packer

variable {coding : Transducer} {settle : coding.State → Option coding.State} {dense plain : Packer}

/-- A plain packer can go on wherever checked output may stop. A relation tells where the decoder
stands in front of what the packer holds. -/
structure Resumes (plain : Packer) (coding : Transducer)
    (settle : coding.State → Option coding.State)
    (holds : coding.State → plain.State → (held : Bytes) → Prop) : Prop where
  /-- At first the decoder is new. -/
  start : holds coding.start plain.start []
  /-- Taking holds back what is taken. -/
  take : ∀ place state held data, holds place state held →
    holds place (plain.take state data) (held ++ data)
  /-- Flushing puts out what is held. -/
  flush : ∀ place state held, holds place state held →
    ∃ next, coding.through place (plain.flush state).1 [] = some (held, next) ∧
      holds next (plain.flush state).2 []
  /-- Finishing puts it out and ends the stream. -/
  finish : ∀ place state held, holds place state held →
    coding.toEnd place (plain.finish state) [] = some held
  /-- Other output for what is held may take the place of what flushing puts out. -/
  resume : ∀ place state held output next settled, holds place state held →
    coding.through place output [] = some (held, next) → settle next = some settled →
    settled = next ∧ holds next (plain.flush state).2 []

variable {holds : coding.State → plain.State → Bytes → Prop}

/-- Checked output decodes to what was held, and leaves the decoder where plain output may go on. If
there is no output there was nothing to put out. -/
theorem of_confirmed {place settled : coding.State} {packing next : dense.State}
    {held output : Bytes}
    (h : confirmed coding settle dense place packing held = some (output, settled, next)) :
    output = [] ∧ held = [] ∧ settled = place ∨
      output ≠ [] ∧ ∃ after, coding.through place output [] = some (held, after) ∧
        settle after = some settled := by
  rw [confirmed] at h
  rcases hflush : dense.flush packing with ⟨given, last⟩
  rw [hflush] at h
  cases given with
  | nil =>
    dsimp only at h
    split at h
    · rename_i hnone
      obtain ⟨rfl, hsame⟩ := Prod.mk.inj (Option.some.inj h)
      exact .inl ⟨rfl, List.isEmpty_iff.mp hnone, (Prod.mk.inj hsame).1.symm⟩
    · cases h
  | cons byte given =>
    dsimp only at h
    cases hthrough : coding.through place (byte :: given) [] with
    | none =>
      rw [hthrough] at h
      cases h
    | some decoded =>
      rw [hthrough] at h
      dsimp only at h
      split at h
      · rename_i hsame
        obtain ⟨after, hafter, hall⟩ := Option.map_eq_some_iff.mp h
        obtain ⟨rfl, hrest⟩ := Prod.mk.inj hall
        obtain ⟨rfl, -⟩ := Prod.mk.inj hrest
        exact .inr ⟨List.cons_ne_nil _ _, decoded.2, hsame ▸ hthrough, hafter⟩
      · cases h

/-- Checked last output decodes to what was held. -/
theorem of_confirmedEnd {place : coding.State} {packing : dense.State} {held output : Bytes}
    (h : confirmedEnd coding dense place packing held = some output) :
    coding.toEnd place output [] = some held := by
  rw [confirmedEnd] at h
  cases hend : coding.toEnd place (dense.finish packing) [] with
  | none =>
    rw [hend] at h
    cases h
  | some decoded =>
    rw [hend] at h
    dsimp only at h
    split at h
    · rename_i hsame
      obtain rfl := Option.some.inj h
      rw [hend, hsame]
    · cases h

/-- The decoder stands at a place, as the checked packer knows, and the plain packer can go on with
what is held. -/
def Verified.Tracks (holds : coding.State → plain.State → Bytes → Prop) (place : coding.State)
    (state : Verified coding.State dense.State plain.State) : Prop :=
  holds place state.plain state.held.toList ∧
    ∀ checked, state.dense = some checked → checked.1 = place

/-- Taking data keeps track, and holds the data back. -/
theorem Verified.Tracks.take (h : plain.Resumes coding settle holds) {place : coding.State}
    {state : Verified coding.State dense.State plain.State} (ht : state.Tracks holds place)
    (data : Bytes) :
    Verified.Tracks holds place ((verified coding settle dense plain).take state data) ∧
      ((verified coding settle dense plain).take state data).held.toList =
        state.held.toList ++ data := by
  obtain ⟨smaller, packing, held⟩ := state
  obtain ⟨hholds, hplace⟩ := ht
  have hheld : (held.appendList data).toList = held.toList ++ data := Array.toList_appendList
  have htaken := h.take place packing held.toList data hholds
  rw [← hheld] at htaken
  refine ⟨⟨htaken, fun checked hchecked => ?_⟩, hheld⟩
  obtain ⟨before, hbefore, rfl⟩ := Option.map_eq_some_iff.mp hchecked
  exact hplace before hbefore

/-- Flushing gives data that were held, and keeps track of the others. -/
theorem Verified.Tracks.flush (h : plain.Resumes coding settle holds) {place : coding.State}
    {state : Verified coding.State dense.State plain.State} (ht : state.Tracks holds place) :
    ∃ next given,
      coding.through place ((verified coding settle dense plain).flush state).1 [] =
        some (given, next) ∧
      Verified.Tracks holds next ((verified coding settle dense plain).flush state).2 ∧
      given ++ ((verified coding settle dense plain).flush state).2.held.toList =
        state.held.toList := by
  obtain ⟨smaller, packing, held⟩ := state
  obtain ⟨hholds, hplace⟩ := ht
  dsimp only at hholds hplace
  simp only [verified]
  split
  · rename_i checked hchecked
    obtain ⟨before, hbefore, hconfirmed⟩ := Option.bind_eq_some_iff.mp hchecked
    have hwhere := hplace before hbefore
    obtain ⟨-, hnone, hsame⟩ | ⟨hsome, -⟩ := of_confirmed hconfirmed
    · refine ⟨place, [], rfl, ⟨hholds, ?_⟩, rfl⟩
      rintro _ ⟨⟩
      exact hsame.trans hwhere
    · exact absurd rfl hsome
  · rename_i output checked hother hchecked
    obtain ⟨before, hbefore, hconfirmed⟩ := Option.bind_eq_some_iff.mp hchecked
    have hwhere := hplace before hbefore
    obtain ⟨hnone, -, -⟩ | ⟨-, after, hthrough, hsettle⟩ := of_confirmed hconfirmed
    · exact (hother hnone).elim
    · rw [hwhere] at hthrough
      obtain ⟨hsame, hnext⟩ := h.resume _ _ _ _ _ _ hholds hthrough hsettle
      refine ⟨after, held.toList, hthrough, ⟨hnext, ?_⟩, List.append_nil _⟩
      rintro _ ⟨⟩
      exact hsame
  · obtain ⟨next, hthrough, hnext⟩ := h.flush place packing held.toList hholds
    exact ⟨next, held.toList, hthrough, ⟨hnext, nofun⟩, List.append_nil _⟩

/-- Finishing gives all that was held. -/
theorem Verified.Tracks.finish (h : plain.Resumes coding settle holds) {place : coding.State}
    {state : Verified coding.State dense.State plain.State} (ht : state.Tracks holds place) :
    coding.toEnd place ((verified coding settle dense plain).finish state) [] =
      some state.held.toList := by
  obtain ⟨smaller, packing, held⟩ := state
  obtain ⟨hholds, hplace⟩ := ht
  dsimp only at hholds hplace
  simp only [verified]
  split
  · rename_i output hchecked
    obtain ⟨before, hbefore, hconfirmed⟩ := Option.bind_eq_some_iff.mp hchecked
    rw [← hplace before hbefore]
    exact of_confirmedEnd hconfirmed
  · exact h.finish place packing held.toList hholds

/-- The rest of the stream of a checked packer decodes to what is held and to what comes later. -/
theorem Verified.Tracks.encodeFrom (h : plain.Resumes coding settle holds) {place : coding.State}
    {state : Verified coding.State dense.State plain.State} (ht : state.Tracks holds place)
    (script : List Feed) :
    coding.toEnd place ((verified coding settle dense plain).encodeFrom state script) [] =
      some (state.held.toList ++ Feed.content script) := by
  induction script generalizing place state with
  | nil =>
    rw [Feed.content, List.append_nil]
    exact ht.finish h
  | cons feed later ih =>
    cases feed with
    | piece data =>
      obtain ⟨htaken, hheld⟩ := ht.take h data
      have hlater := ih htaken
      rw [hheld, List.append_assoc] at hlater
      exact hlater
    | flush =>
      obtain ⟨next, given, hthrough, hflushed, hheld⟩ := ht.flush h
      have hlater := Transducer.toEnd_through hthrough (ih hflushed)
      rw [← List.append_assoc, hheld] at hlater
      exact hlater

/-- The rest of the stream of a plain packer by itself decodes to what it holds and to what comes
later. -/
theorem Resumes.encodeFrom (h : plain.Resumes coding settle holds) {place : coding.State}
    {state : plain.State} {held : Bytes} (hholds : holds place state held) (script : List Feed) :
    coding.toEnd place (plain.encodeFrom state script) [] = some (held ++ Feed.content script) := by
  induction script generalizing place state held with
  | nil =>
    rw [Feed.content, List.append_nil]
    exact h.finish place state held hholds
  | cons feed later ih =>
    cases feed with
    | piece data =>
      have hlater := ih (h.take place state held data hholds)
      rw [List.append_assoc] at hlater
      exact hlater
    | flush =>
      obtain ⟨next, hthrough, hflushed⟩ := h.flush place state held hholds
      exact Transducer.toEnd_through hthrough (ih hflushed)

/-- The stream of a checked packer decodes, whatever its search comes up with. -/
theorem verified_decodes (h : plain.Resumes coding settle holds) (dense : Packer)
    (script : List Feed) :
    coding.toEnd coding.start ((verified coding settle dense plain).encodeFrom
      (verified coding settle dense plain).start script) [] = some (Feed.content script) := by
  have ht : Verified.Tracks holds coding.start (verified coding settle dense plain).start := by
    refine ⟨h.start, ?_⟩
    rintro _ ⟨⟩
    rfl
  exact ht.encodeFrom h script

/-- A checked packer encodes as an engine. -/
theorem verified_encodes (h : plain.Resumes coding settle holds) (dense : Packer) {size : Nat}
    (hsize : 1 ≤ size) : ((verified coding settle dense plain).engine size).Encodes coding :=
  fun script => ⟨_, engine_encodeFrom hsize _ script, verified_decodes h dense script⟩

end Packer

end ContentCoding
