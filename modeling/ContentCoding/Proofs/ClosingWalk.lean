import ContentCoding.Proofs.Builtin
import ContentCoding.Scripted.Layers

/-!
# The walk of a close

A close walks along the listed names from the last to the first and down the
stack at the same time. `ClosingWalk` says what such a walk is in terms of
construction indices alone: a sequence of visits, each to the layer one below
the last, each of which finalizes the layer if and only if there is anything to
finalize. The walk goes on as long as nothing has failed and the layer below can
be reached, and it determines what a close answers.

The main statement is that a close of either pipeline is one such walk over the
layers of the order, that nothing but the destruction of the layers comes after
it, and that over the built-in layers it reaches the first one unless it fails.
-/

namespace ContentCoding

universe u v

variable {K : Type 1} {S : K → Type} {F : Type 1} {P : Type}

namespace Stack

/-- The layers by construction index. -/
def layers : {depth : Nat} → Stack S depth → List (Sigma S)
  | _, .bottom => []
  | _, .layer _ kind state below => below.layers ++ [⟨kind, state⟩]

/-- There are as many layers as the depth says. -/
theorem length_layers {depth : Nat} (stack : Stack S depth) : stack.layers.length = depth := by
  induction stack with
  | bottom => rfl
  | layer name kind state below ih =>
    rw [layers, List.length_append, List.length_singleton, ih]

/-- The top layer comes last. -/
theorem layers_top {depth : Nat} (name : String) (kind : K) (state : S kind)
    (below : Stack S depth) : (layer name kind state below).layers[depth]? = some ⟨kind, state⟩ := by
  have h : (below.layers ++ [⟨kind, state⟩])[below.layers.length]? = some ⟨kind, state⟩ :=
    List.getElem?_concat_length
  rwa [length_layers] at h

/-- Below the top a stack has the layers of the stack below. -/
theorem layers_below {depth : Nat} (name : String) (kind : K) (state : S kind)
    (below : Stack S depth) {index : Nat} (h : index < depth) :
    (layer name kind state below).layers[index]? = below.layers[index]? := by
  rw [layers, List.getElem?_append_left (below.length_layers.symm ▸ h)]

/-- The kinds of the layers are part of the shape. -/
theorem kinds_eq_shape {depth : Nat} (stack : Stack S depth) :
    stack.layers.map Sigma.fst = stack.shape.map Prod.snd := by
  induction stack with
  | bottom => rfl
  | layer name kind state below ih =>
    simp only [layers, shape, List.map_append, List.map_cons, List.map_nil, ih]

/-- Finalize the layer of a construction index alone, over the layers below it. -/
def finalizeAt [LayerKind S] [Medium S F P] :
    {depth : Nat} → Nat → Stack S depth → P → Except Fault Unit × Stack S depth × P
  | _, _, .bottom, port => (.ok (), .bottom, port)
  | depth + 1, index, .layer name kind state below, port =>
    if index = depth then finalizeTop (.layer name kind state below) port
    else
      let (answer, below, port) := finalizeAt index below port
      (answer, .layer name kind state below, port)

end Stack

/-- One step of a walk that closes a stack. -/
structure Visit (S : K → Type) (P : Type) (depth : Nat) : Type 1 where
  /-- The construction index of the layer. -/
  index : Nat
  /-- The stack and the port as the walk comes to the layer. -/
  before : Stack S depth × P
  /-- What finalizing the layer came to, if it was finalized. -/
  answer : Option (Except Fault Unit)
  /-- The stack and the port as the walk leaves the layer. -/
  after : Stack S depth × P

namespace Visit

variable {depth : Nat}

/-- The fault of the layer, if it was finalized and failed. -/
def fault (visit : Visit S P depth) : Option Fault :=
  match visit.answer with
  | some (.error fault) => some fault
  | _ => none

/-- The same visit in a stack with one more layer on top. -/
def under (name : String) (kind : K) (state : S kind) (visit : Visit S P depth) :
    Visit S P (depth + 1) :=
  ⟨visit.index, (.layer name kind state visit.before.1, visit.before.2), visit.answer,
    (.layer name kind state visit.after.1, visit.after.2)⟩

section Steps

variable [LayerKind S]

/-- The layer below can be reached through this one after the visit. -/
def Exposes (visit : Visit S P depth) : Prop :=
  ∃ kind state, visit.after.1.layers[visit.index]? = some ⟨kind, state⟩ ∧
    LayerKind.exposes kind state = true

/-- Nothing keeps the walk from going on. -/
def GoesOn (visit : Visit S P depth) : Prop := visit.fault = none ∧ visit.Exposes

variable [Medium S F P]

/-- The layer is finalized once if there is anything to finalize, and else left alone. -/
def Sound (visit : Visit S P depth) : Prop :=
  ∃ kind state, visit.before.1.layers[visit.index]? = some ⟨kind, state⟩ ∧
    if LayerKind.finalizes kind state then
      visit.answer = some (visit.before.1.finalizeAt visit.index visit.before.2).1 ∧
        visit.after = (visit.before.1.finalizeAt visit.index visit.before.2).2
    else visit.answer = none ∧ visit.after = visit.before

/-- A visit that goes on does so under another layer. -/
theorem under_goesOn (name : String) (kind : K) (state : S kind) {visit : Visit S P depth}
    (hi : visit.index < depth) : (visit.under name kind state).GoesOn ↔ visit.GoesOn := by
  have hl := Stack.layers_below name kind state visit.after.1 hi
  simp only [GoesOn, Exposes, under, fault, hl]

/-- A visit that is sound is so under another layer. -/
theorem under_sound (name : String) (kind : K) (state : S kind) {visit : Visit S P depth}
    (hi : visit.index < depth) (h : visit.Sound) : (visit.under name kind state).Sound := by
  obtain ⟨found, held, hlayer, hcall⟩ := h
  refine ⟨found, held, (Stack.layers_below name kind state visit.before.1 hi).trans hlayer, ?_⟩
  have hne : visit.index ≠ depth := Nat.ne_of_lt hi
  split
  · rename_i hf
    rw [if_pos hf] at hcall
    simp only [under, Stack.finalizeAt, if_neg hne]
    exact ⟨hcall.1, by rw [hcall.2]⟩
  · rename_i hf
    rw [if_neg hf] at hcall
    exact ⟨hcall.1, by rw [under, hcall.2]⟩

end Steps

end Visit

/-- Each visit begins where the last one ended, the first at the start, and the last one
ends at the finish. -/
def Linked {depth : Nat} (start : Stack S depth × P) :
    List (Visit S P depth) → (finish : Stack S depth × P) → Prop
  | [], finish => start = finish
  | visit :: visits, finish => visit.before = start ∧ Linked visit.after visits finish

/-- Linked visits are linked under another layer. -/
theorem Linked.under {depth : Nat} (name : String) (kind : K) (state : S kind)
    {start finish : Stack S depth × P} {visits : List (Visit S P depth)}
    (h : Linked start visits finish) :
    Linked (.layer name kind state start.1, start.2) (visits.map (Visit.under name kind state))
      (.layer name kind state finish.1, finish.2) := by
  induction visits generalizing start with
  | nil => rw [Linked] at h; rw [h]; rfl
  | cons visit visits ih =>
    obtain ⟨hb, hrest⟩ := h
    exact ⟨by rw [Visit.under, hb], ih hrest⟩

/-- A walk over a stack from the layer constructed last to some layer below. -/
structure ClosingWalk [LayerKind S] [Medium S F P] {depth : Nat} (start : Stack S depth × P)
    (visits : List (Visit S P depth)) (finish : Stack S depth × P) : Prop where
  /-- The layers are visited from the last index downward, each of them once. -/
  downward : visits.map Visit.index = (List.range depth).reverse.take visits.length
  /-- Nothing happens between the visits. -/
  linked : Linked start visits finish
  /-- A visit finalizes its layer if there is anything to finalize. -/
  sound : ∀ visit ∈ visits, visit.Sound
  /-- The walk goes past layers that have not failed and expose the one below. -/
  goesOn : ∀ visit ∈ visits.dropLast, visit.GoesOn
  /-- It stops only at the first layer, at a failure or at a layer that hides the others. -/
  stops : visits.length < depth → ∃ last, visits.getLast? = some last ∧ ¬ last.GoesOn

/-- The answer of a close is what its visits came to. A failure is reported with the index
and the name of the layer. -/
structure Attributed {depth : Nat} (names : List String) (visits : List (Visit S P depth))
    (answer : Except PipelineError Unit) : Prop where
  /-- The close succeeds if and only if nothing failed. -/
  ok_iff : answer = .ok () ↔ ∀ visit ∈ visits, visit.fault = none
  /-- What failed is what the error says. -/
  error_eq : ∀ visit ∈ visits, ∀ fault, visit.fault = some fault →
    ∃ name, names[visit.index]? = some name ∧
      answer = .error (.finalization visit.index name fault)

section Walking

variable [LayerKind S] [Medium S F P] {depth : Nat}

/-- Visits of a walk are to layers of the stack. -/
theorem ClosingWalk.index_lt {start finish : Stack S depth × P} {visits : List (Visit S P depth)}
    (h : ClosingWalk start visits finish) {visit : Visit S P depth} (hv : visit ∈ visits) :
    visit.index < depth := by
  have hm : visit.index ∈ visits.map Visit.index := List.mem_map_of_mem hv
  rw [h.downward] at hm
  exact List.mem_range.mp (List.mem_reverse.mp (List.mem_of_mem_take hm))

/-- A walk that does not go past the top layer. -/
theorem ClosingWalk.single {visit : Visit S P (depth + 1)} (hi : visit.index = depth)
    (hs : visit.Sound) (hg : ¬ visit.GoesOn) : ClosingWalk visit.before [visit] visit.after where
  downward := by
    rw [List.range_succ, List.reverse_append]
    exact congrArg (· :: []) hi
  linked := ⟨rfl, rfl⟩
  sound := List.forall_mem_singleton.mpr hs
  goesOn := fun _ h => by cases h
  stops := fun _ => ⟨visit, rfl, hg⟩

/-- A walk that goes past the top layer goes on as a walk over the stack below. -/
theorem ClosingWalk.cons {visit : Visit S P (depth + 1)} (hi : visit.index = depth)
    (hs : visit.Sound) (hg : visit.GoesOn) {name : String} {kind : K} {state : S kind}
    {below : Stack S depth} {port : P} (ha : visit.after = (.layer name kind state below, port))
    {visits : List (Visit S P depth)} {finish : Stack S depth × P}
    (h : ClosingWalk (below, port) visits finish) :
    ClosingWalk visit.before (visit :: visits.map (Visit.under name kind state))
      (.layer name kind state finish.1, finish.2) where
  downward := by
    have hmap : (visits.map (Visit.under name kind state)).map Visit.index =
        visits.map Visit.index := by
      rw [List.map_map]
      rfl
    rw [List.map_cons, hmap, h.downward, hi, List.range_succ, List.reverse_append,
      List.length_cons, List.length_map]
    rfl
  linked := ⟨rfl, ha ▸ h.linked.under name kind state⟩
  sound := by
    refine List.forall_mem_cons.mpr ⟨hs, List.forall_mem_map.mpr fun below hb => ?_⟩
    exact Visit.under_sound name kind state (h.index_lt hb) (h.sound below hb)
  goesOn := by
    cases visits with
    | nil => exact fun _ hv => by cases hv
    | cons first rest =>
      rw [List.map_cons, List.dropLast_cons_cons, ← List.map_cons, ← List.map_dropLast]
      refine List.forall_mem_cons.mpr ⟨hg, List.forall_mem_map.mpr fun below hb => ?_⟩
      exact (Visit.under_goesOn name kind state (h.index_lt (List.dropLast_subset _ hb))).mpr
        (h.goesOn below hb)
  stops := by
    intro hlen
    rw [List.length_cons, List.length_map] at hlen
    obtain ⟨last, hl, hstop⟩ := h.stops (Nat.lt_of_succ_lt_succ hlen)
    refine ⟨last.under name kind state, ?_, ?_⟩
    · rw [List.getLast?_cons, List.getLast?_map, hl]
      rfl
    · rwa [Visit.under_goesOn name kind state (h.index_lt (List.mem_of_getLast? hl))]

omit [LayerKind S] [Medium S F P] in
/-- The answer of a walk over one layer that fails. -/
theorem Attributed.failed {names : List String} {visit : Visit S P depth} {name : String}
    {fault : Fault} (hn : names[visit.index]? = some name) (hf : visit.fault = some fault) :
    Attributed names [visit] (.error (.finalization visit.index name fault)) := by
  refine ⟨⟨nofun, fun h => ?_⟩, List.forall_mem_singleton.mpr fun other ho => ?_⟩
  · have hnone := List.forall_mem_singleton.mp h
    rw [hf] at hnone
    cases hnone
  · rw [hf] at ho
    cases ho
    exact ⟨name, hn, rfl⟩

omit [LayerKind S] [Medium S F P] in
/-- The answer of a walk is that of its rest if the first layer has not failed. -/
theorem Attributed.cons {names : List String} {last : String} {visit : Visit S P (depth + 1)}
    (hf : visit.fault = none) {name : String} {kind : K} {state : S kind}
    {visits : List (Visit S P depth)} {answer : Except PipelineError Unit}
    (h : Attributed names visits answer) (hlen : names.length = depth)
    (hlt : ∀ visit ∈ visits, visit.index < depth) :
    Attributed (names ++ [last]) (visit :: visits.map (Visit.under name kind state)) answer := by
  constructor
  · rw [h.ok_iff, List.forall_mem_cons, List.forall_mem_map]
    exact ⟨fun hall => ⟨hf, hall⟩, fun hall => hall.2⟩
  · refine List.forall_mem_cons.mpr ⟨fun fault ho => ?_, List.forall_mem_map.mpr ?_⟩
    · rw [hf] at ho
      cases ho
    · intro below hb fault ho
      obtain ⟨found, hfound, ha⟩ := h.error_eq below hb fault ho
      refine ⟨found, ?_, ha⟩
      rw [List.getElem?_append_left (hlen.symm ▸ hlt below hb)]
      exact hfound

omit [LayerKind S] [Medium S F P] in
/-- The answer of a walk over one layer that does not fail. -/
theorem Attributed.passed {names : List String} {visit : Visit S P depth}
    (hf : visit.fault = none) : Attributed names [visit] (.ok ()) := by
  refine ⟨⟨fun _ => List.forall_mem_singleton.mpr hf, fun _ => rfl⟩, ?_⟩
  refine List.forall_mem_singleton.mpr fun fault ho => ?_
  rw [hf] at ho
  cases ho

/-- What the walk makes of the top layer, before it looks at the answer. -/
def Stack.meet (kind : K) (state : S kind) (below : Stack S depth) (port : P) :
    (Except Fault Unit × S kind) × Stack S depth × P :=
  if LayerKind.finalizes kind state then Medium.finalize kind state below port
  else ((.ok (), state), below, port)

/-- The visit to the top layer. -/
def Visit.top (name : String) (kind : K) (state : S kind) (below : Stack S depth) (port : P) :
    Visit S P (depth + 1) :=
  let met := Stack.meet kind state below port
  ⟨depth, (.layer name kind state below, port),
    if LayerKind.finalizes kind state then some met.1.1 else none,
    (.layer name kind met.1.2 met.2.1, met.2.2)⟩

/-- The visit to the top layer finalizes it if there is anything to finalize. -/
theorem Visit.top_sound (name : String) (kind : K) (state : S kind) (below : Stack S depth)
    (port : P) : (Visit.top name kind state below port).Sound := by
  refine ⟨kind, state, Stack.layers_top name kind state below, ?_⟩
  simp only [Visit.top, Stack.meet, Stack.finalizeAt, if_true, Stack.finalizeTop]
  split
  · exact ⟨rfl, rfl⟩
  · exact ⟨rfl, rfl⟩

/-- The top layer fails if and only if it is finalized with a fault. -/
theorem Visit.fault_top (name : String) (kind : K) (state : S kind) (below : Stack S depth)
    (port : P) :
    (Visit.top name kind state below port).fault =
      match (Stack.meet kind state below port).1.1 with
      | .error fault => some fault
      | .ok () => none := by
  by_cases hf : LayerKind.finalizes kind state = true
  · simp only [Visit.top, Stack.meet, Visit.fault, if_pos hf]
    rcases (Medium.finalize kind state below port).1.1 with fault | _ <;> rfl
  · simp only [Visit.top, Stack.meet, Visit.fault, if_neg hf]

/-- A step of the walk along the names. -/
theorem Stack.finalizeAlong_layer (entry : String) (index : Nat) (entries : List (String × Nat))
    (name : String) (kind : K) (state : S kind) (below : Stack S depth) (port : P) :
    finalizeAlong ((entry, index) :: entries) (.layer name kind state below) port =
      match meet kind state below port with
      | ((.error fault, after), rest, left) =>
        (.error (.finalization index entry fault), .layer name kind after rest, left)
      | ((.ok (), after), rest, left) =>
        if LayerKind.exposes kind after then
          ((finalizeAlong entries rest left).1,
            .layer name kind after (finalizeAlong entries rest left).2.1,
            (finalizeAlong entries rest left).2.2)
        else (.ok (), .layer name kind after rest, left) := by
  rw [finalizeAlong, meet]
  split
  rename_i hm
  rw [hm]
  rename_i answer after rest left
  cases answer <;> rfl

/-- Walking along the names backwards and down the stack is a walk over its layers. -/
theorem Stack.finalizeAlong_walk (stack : Stack S depth) (port : P) (names : List String)
    (hn : names.length = depth) :
    ∃ visits, ClosingWalk (stack, port) visits (finalizeAlong names.zipIdx.reverse stack port).2 ∧
      Attributed names visits (finalizeAlong names.zipIdx.reverse stack port).1 := by
  -- Finalizing a layer changes those below, so the induction is on the depth alone.
  induction depth generalizing names port with
  | zero =>
    cases stack
    obtain rfl := List.length_eq_zero_iff.mp hn
    exact ⟨[], ⟨rfl, rfl, nofun, nofun, nofun⟩, ⟨fun _ => nofun, fun _ => rfl⟩, nofun⟩
  | succ depth ih =>
    obtain _ | @⟨_, name, kind, state, below⟩ := stack
    obtain rfl | ⟨front, last, hcat⟩ := List.eq_nil_or_concat names
    · cases hn
    rw [List.concat_eq_append] at hcat
    subst hcat
    have hfront : front.length = depth := by
      rw [List.length_append, List.length_singleton] at hn
      omega
    have hwalk : (front ++ [last]).zipIdx.reverse = (last, depth) :: front.zipIdx.reverse := by
      rw [List.zipIdx_append, List.reverse_append, hfront, Nat.zero_add]
      rfl
    have hlast : (front ++ [last])[depth]? = some last := hfront ▸ List.getElem?_concat_length
    have hsound := Visit.top_sound name kind state below port
    have hfault := Visit.fault_top name kind state below port
    have hafter : (Visit.top name kind state below port).after =
        (.layer name kind (meet kind state below port).1.2 (meet kind state below port).2.1,
          (meet kind state below port).2.2) := rfl
    rw [hwalk, finalizeAlong_layer]
    rcases hm : meet kind state below port with ⟨⟨fault | _, after⟩, rest, left⟩ <;>
      rw [hm] at hfault hafter <;> dsimp only at hfault hafter ⊢
    · refine ⟨[Visit.top name kind state below port], ?_, Attributed.failed hlast hfault⟩
      rw [← hafter]
      refine ClosingWalk.single rfl hsound fun hg => ?_
      rw [hg.1] at hfault
      cases hfault
    · have hexposes : (Visit.top name kind state below port).Exposes ↔
          LayerKind.exposes kind after = true := by
        rw [Visit.Exposes, hafter]
        refine ⟨fun ⟨_, _, hfound, he⟩ => ?_, fun he => ⟨kind, after, layers_top .., he⟩⟩
        cases (layers_top name kind after rest).symm.trans hfound
        exact he
      by_cases he : LayerKind.exposes kind after = true
      · obtain ⟨visits, hvisits, hanswer⟩ := ih rest left front hfront
        simp only [if_pos he]
        exact ⟨_, ClosingWalk.cons rfl hsound ⟨hfault, hexposes.mpr he⟩ hafter hvisits,
          Attributed.cons hfault hanswer hfront fun _ hv => hvisits.index_lt hv⟩
      · simp only [if_neg he]
        refine ⟨[Visit.top name kind state below port], ?_, Attributed.passed hfault⟩
        rw [← hafter]
        exact ClosingWalk.single rfl hsound fun hg => he (hexposes.mp hg.2)

end Walking

section Effects

variable [LayerKind S] [Medium S F P] {depth : Nat}

/-- Finalizing one layer keeps the shape. -/
theorem Stack.finalizeAt_shape [Medium.KeepsShape S F P] (index : Nat) (stack : Stack S depth)
    (port : P) : (stack.finalizeAt index port).2.1.shape = stack.shape := by
  induction stack with
  | bottom => rfl
  | layer name kind state below ih =>
    rw [finalizeAt]
    split
    · exact congrArg (· ++ [(name, kind)]) (Medium.KeepsShape.finalize_shape kind state below port)
    · exact congrArg (· ++ [(name, kind)]) ih

/-- Finalizing one layer keeps what finalizing layers keeps. -/
theorem Stack.finalizeAt_keeps {p : P → Prop} (hp : Medium.Keeps S p) (index : Nat)
    (stack : Stack S depth) (port : P) (h : p port) : p (stack.finalizeAt index port).2.2 := by
  induction stack with
  | bottom => exact h
  | layer name kind state below ih =>
    rw [finalizeAt]
    split
    · exact hp.finalize kind state below port h
    · exact ih

/-- A visit either leaves stack and port alone or finalizes the layer. -/
theorem Visit.Sound.after_cases {visit : Visit S P depth} (h : visit.Sound) :
    visit.after = visit.before ∨
      visit.after = (visit.before.1.finalizeAt visit.index visit.before.2).2 := by
  obtain ⟨kind, state, -, hcall⟩ := h
  split at hcall
  · exact .inr hcall.2
  · exact .inl hcall.2

/-- What visits keep holds after each visit of a walk and at its finish. -/
theorem ClosingWalk.keeps {start finish : Stack S depth × P} {visits : List (Visit S P depth)}
    (h : ClosingWalk start visits finish) {p : Stack S depth × P → Prop}
    (hp : ∀ visit : Visit S P depth, visit.Sound → p visit.before → p visit.after)
    (h0 : p start) : (∀ visit ∈ visits, p visit.after) ∧ p finish := by
  obtain ⟨-, hlinked, hsound, -, -⟩ := h
  induction visits generalizing start with
  | nil =>
    cases hlinked
    exact ⟨nofun, h0⟩
  | cons visit visits ih =>
    obtain ⟨rfl, hrest⟩ := hlinked
    obtain ⟨hfirst, hlater⟩ := List.forall_mem_cons.mp hsound
    have hv := hp visit hfirst h0
    obtain ⟨hall, hfinish⟩ := ih hv hrest hlater
    exact ⟨List.forall_mem_cons.mpr ⟨hv, hall⟩, hfinish⟩

/-- A walk keeps what finalizing layers keeps. -/
theorem ClosingWalk.keeps_port {start finish : Stack S depth × P}
    {visits : List (Visit S P depth)} (h : ClosingWalk start visits finish) {p : P → Prop}
    (hp : Medium.Keeps S p) (h0 : p start.2) : p finish.2 := by
  refine (h.keeps (p := fun world => p world.2) (fun visit hs hb => ?_) h0).2
  rcases hs.after_cases with ha | ha
  · rw [ha]
    exact hb
  · rw [ha]
    exact visit.before.1.finalizeAt_keeps hp visit.index visit.before.2 hb

/-- After a failure nothing happens any more. -/
theorem ClosingWalk.finish_of_fault {start finish : Stack S depth × P}
    {visits : List (Visit S P depth)} (h : ClosingWalk start visits finish)
    {visit : Visit S P depth} (hv : visit ∈ visits) (hf : visit.fault ≠ none) :
    visit.after = finish := by
  obtain ⟨-, hlinked, -, hgoes, -⟩ := h
  induction visits generalizing start with
  | nil => cases hv
  | cons first rest ih =>
    obtain ⟨-, hrest⟩ := hlinked
    cases rest with
    | nil =>
      rw [List.mem_singleton.mp hv]
      exact hrest
    | cons second rest =>
      rw [List.dropLast_cons_cons] at hgoes
      obtain ⟨hfirst, hlater⟩ := List.forall_mem_cons.mp hgoes
      rcases List.mem_cons.mp hv with rfl | hv
      · exact absurd hfirst.1 hf
      · exact ih hv hrest hlater

/-- All layers have been visited, unless one of them failed. -/
def ReachesAll (visits : List (Visit S P depth)) : Prop :=
  visits.map Visit.index = (List.range depth).reverse ∨ ∃ visit ∈ visits, visit.fault ≠ none

/-- If layers of every kind in a stack always expose the one below, a walk stops early only
at a failure. -/
theorem ClosingWalk.reachesAll [Medium.KeepsShape S F P] {stack : Stack S depth} {port : P}
    {finish : Stack S depth × P} {visits : List (Visit S P depth)}
    (h : ClosingWalk (stack, port) visits finish)
    (he : ∀ entry ∈ stack.shape, AlwaysExposes S entry.2) :
    ReachesAll visits := by
  have hshape := (h.keeps (p := fun world => world.1.shape = stack.shape) (fun visit hs hb => by
    rcases hs.after_cases with ha | ha
    · rw [ha]; exact hb
    · rw [ha]; exact (visit.before.1.finalizeAt_shape visit.index visit.before.2).trans hb) rfl).1
  have hexposes : ∀ visit ∈ visits, visit.Exposes := by
    intro visit hv
    have hlt : visit.index < visit.after.1.layers.length :=
      visit.after.1.length_layers.symm ▸ h.index_lt hv
    refine ⟨_, _, List.getElem?_eq_getElem hlt, ?_⟩
    have hkind : (visit.after.1.layers[visit.index]).1 ∈ stack.shape.map Prod.snd := by
      rw [← hshape visit hv, ← Stack.kinds_eq_shape]
      exact List.mem_map_of_mem (List.getElem_mem hlt)
    obtain ⟨entry, hentry, heq⟩ := List.mem_map.mp hkind
    have hall := he entry hentry
    rw [heq] at hall
    exact hall _
  by_cases hlen : visits.length < depth
  · obtain ⟨last, hlast, hstop⟩ := h.stops hlen
    have hv := List.mem_of_getLast? hlast
    exact .inr ⟨last, hv, fun hf => hstop ⟨hf, hexposes last hv⟩⟩
  · refine .inl (h.downward.trans (List.take_of_length_le ?_))
    rw [List.length_reverse, List.length_range]
    exact Nat.not_lt.mp hlen

/-- A close of a chain over a port, from the walk to its answer. -/
structure ClosesChain (registry : Registry F) (order : List String) (chain : Chain S) (port : P)
    (visits : List (Visit S P chain.depth)) (finish : Stack S chain.depth × P)
    (answer : Except PipelineError Unit) : Prop where
  /-- The layers are those that the registry gives for the names that are not blank. -/
  realizes : chain.Realizes P registry (order.filter (· != ""))
  /-- The visits are a walk over them. -/
  walk : ClosingWalk (chain.stack, port) visits finish
  /-- They decide the answer. -/
  attributed : Attributed chain.names visits answer
  /-- They leave out a layer only below one that failed or that may hide what it wraps. -/
  reaches : (∀ entry ∈ chain.stack.shape, AlwaysExposes S entry.2) → ReachesAll visits

/-- Finalizing the layers of a chain is a walk over them. -/
theorem Chain.Realizes.closes [Medium.KeepsShape S F P] {registry : Registry F}
    {order : List String} {chain : Chain S}
    (h : chain.Realizes P registry (order.filter (· != ""))) (port : P) :
    ∃ visits finish,
      ClosesChain registry order chain port visits finish (chain.finalizeAll port).1 ∧
        (chain.finalizeAll port).2 = (⟨chain.depth, finish.1, chain.names⟩, finish.2) := by
  obtain ⟨depth, stack, names⟩ := chain
  have hlen : names.length = depth := by
    have haligned := h.aligned
    dsimp only at haligned
    rw [← haligned, stack.length_names]
  obtain ⟨visits, hwalk, hanswer⟩ := stack.finalizeAlong_walk port names hlen
  exact ⟨visits, _, ⟨h, hwalk, hanswer, hwalk.reachesAll⟩, rfl⟩

end Effects

/-- A compressor with a chain is closed by a walk over it. -/
theorem Compressor.At.close_walks {σ : Type} [Sink σ] {sink : σ} {registry : EncoderRegistry}
    {order : List String} {stage : Stage} {compressor : Compressor σ}
    (h : At sink registry order stage compressor)
    (hk : compressor.guard.Holds (Chain.Realizes (Outlet σ) registry (order.filter (· != ""))))
    (hb : compressor.guard.isBuilt = true) :
    ∃ chain visits finish answer, compressor.guard.state = .built chain ∧
      ClosesChain registry order chain compressor.outlet visits finish answer ∧
      compressor.close.1 = .ofExcept answer ∧
      compressor.close.2.outlet = finish.1.teardown { finish.2 with attached := false } ∧
      ∀ later, compressor.close.2.run later = compressor.close.2 := by
  obtain ⟨chain, rfl, hguard⟩ := h.guard.eq_of_isBuilt hb
  have hstate : compressor.guard.state = .built chain := by rw [hguard]
  have hclosed := h.close.2
  obtain ⟨visits, finish, hcloses, hfinish⟩ := (hk chain hstate).closes compressor.outlet
  have hunbuilt : compressor.guard.isUnbuilt = false := by rw [hguard]; rfl
  have hclose := close_of_settled hunbuilt
  rw [finish_of_built hstate, hfinish] at hclose
  exact ⟨chain, visits, finish, _, hstate, hcloses, by rw [hclose], by rw [hclose]; rfl,
    hclosed.run_closed⟩

/-- A decompressor with a chain is closed by a walk over it. -/
theorem Decompressor.At.close_walks {σ : Type} [Source σ] {source : σ} {registry : DecoderRegistry}
    {order : List String} {stage : Stage} {decompressor : Decompressor σ}
    (h : At source registry order stage decompressor)
    (hk : decompressor.guard.Holds (Chain.Realizes (Inlet σ) registry (order.filter (· != ""))))
    (hb : decompressor.guard.isBuilt = true) :
    ∃ chain visits finish answer, decompressor.guard.state = .built chain ∧
      ClosesChain registry order chain decompressor.inlet visits finish answer ∧
      decompressor.close.1 = answer ∧
      decompressor.close.2.inlet = finish.1.teardown finish.2 ∧
      ∀ later, decompressor.close.2.run later = decompressor.close.2 := by
  obtain ⟨chain, rfl, hguard⟩ := h.guard.eq_of_isBuilt hb
  have hstate : decompressor.guard.state = .built chain := by rw [hguard]
  have hclosed := h.close.2
  obtain ⟨visits, finish, hcloses, hfinish⟩ := (hk chain hstate).closes decompressor.inlet
  have hclose := close_of_built hstate
  rw [hfinish] at hclose
  exact ⟨chain, visits, finish, _, hstate, hcloses, by rw [hclose], by rw [hclose]; rfl,
    hclosed.run_closed⟩

/-- A close of a pipeline with a chain is one walk over the layers of its order, down from the
one constructed last. It finalizes each layer that it comes to once, if there is anything to
finalize, stops after the first failure and after the first layer that hides the others, and
answers with that failure, if there is one. What is left is to destroy the layers, and
whatever calls come later find none. Built-in layers hide nothing. A sink is written to and
flushed at most, and a source is read at most. -/
theorem close_is_closing_walk :
    (∀ {σ : Type} [Sink σ] (sink : σ) (registry : EncoderRegistry) (order : List String)
        (calls : List Compressor.Call),
      let before := (Compressor.create sink registry order).run calls
      before.guard.isBuilt = true →
      ∃ chain visits finish answer, before.guard.state = .built chain ∧
        ClosesChain registry order chain before.outlet visits finish answer ∧
        before.close.1 = .ofExcept answer ∧
        before.close.2.outlet = finish.1.teardown { finish.2 with attached := false } ∧
        (∀ later, before.close.2.run later = before.close.2) ∧
        (∀ patience config, registry = .ofConfig patience config → ReachesAll visits) ∧
        ∀ p : σ → Prop, Sink.Keeps p → p before.outlet.sink → p before.close.2.outlet.sink) ∧
    (∀ {σ : Type} [Source σ] (source : σ) (registry : DecoderRegistry) (order : List String)
        (calls : List Decompressor.Call),
      let before := (Decompressor.create source registry order).run calls
      before.guard.isBuilt = true →
      ∃ chain visits finish answer, before.guard.state = .built chain ∧
        ClosesChain registry order chain before.inlet visits finish answer ∧
        before.close.1 = answer ∧
        before.close.2.inlet = finish.1.teardown finish.2 ∧
        (∀ later, before.close.2.run later = before.close.2) ∧
        (∀ patience config, registry = .ofConfig patience config → ReachesAll visits) ∧
        ∀ p : σ → Prop, Source.Keeps p → p before.inlet.source → p before.close.2.inlet.source) := by
  constructor
  · intro σ _ sink registry order calls before hb
    have hk := Compressor.realizes_of_run sink registry order calls
    obtain ⟨chain, visits, finish, answer, hstate, hcloses, hanswer, houtlet, hlater⟩ :=
      (Compressor.at_run sink registry order calls).close_walks hk hb
    refine ⟨chain, visits, finish, answer, hstate, hcloses, hanswer, houtlet, hlater, ?_, ?_⟩
    · intro patience config hr
      refine hcloses.reaches fun entry he => ?_
      have hmade := hcloses.realizes.made entry he
      rw [hr] at hmade
      exact EncoderRegistry.makes_exposing hmade
    · intro p hp h
      rw [houtlet]
      exact finish.1.teardown_keeps hp.outlet.medium _ (hcloses.walk.keeps_port hp.outlet.medium h)
  · intro σ _ source registry order calls before hb
    have hk := Decompressor.realizes_of_run source registry order calls
    obtain ⟨chain, visits, finish, answer, hstate, hcloses, hanswer, hinlet, hlater⟩ :=
      (Decompressor.at_run source registry order calls).close_walks hk hb
    refine ⟨chain, visits, finish, answer, hstate, hcloses, hanswer, hinlet, hlater, ?_, ?_⟩
    · intro patience config hr
      refine hcloses.reaches fun entry he => ?_
      have hmade := hcloses.realizes.made entry he
      rw [hr] at hmade
      exact DecoderRegistry.makes_exposing hmade
    · intro p hp h
      rw [hinlet]
      exact finish.1.teardown_keeps hp.inlet.medium _ (hcloses.walk.keeps_port hp.inlet.medium h)

/-- A close that fails at the second of two layers stops there, on either side. -/
theorem close_is_closing_walk_over_failing_layer :
    let encoders : EncoderRegistry :=
      ⟨[("inner", .always (Scripted.failingFinalize "inner" (.bare .brokenPipe)) ()),
        ("outer", .always (Scripted.recording "outer") ())]⟩
    let decoders : DecoderRegistry :=
      ⟨[("inner", .always (Scripted.finalizingReader "inner" (.error (.bare .brokenPipe))) ()),
        ("outer", .always (Scripted.finalizingReader "outer" (.ok ())) ())]⟩
    let order := ["outer", "", "inner"]
    let compressor := (Compressor.create (#[] : Array UInt8) encoders order).run [.write [1, 2]]
    let decompressor := (Decompressor.create ([1, 2] : Bytes) decoders order).run [.read 1]
    let error := PipelineError.finalization 1 "inner" (.bare .brokenPipe)
    (compressor.guard.isBuilt = true ∧ ∃ (chain : EncoderChain), ∃ visits finish,
      ClosesChain encoders order chain compressor.outlet visits finish (.error error)) ∧
    (decompressor.guard.isBuilt = true ∧ ∃ (chain : DecoderChain), ∃ visits finish,
      ClosesChain decoders order chain decompressor.inlet visits finish (.error error)) := by
  intro encoders decoders order compressor decompressor error
  constructor
  · refine ⟨rfl, ?_⟩
    obtain ⟨chain, visits, finish, answer, -, hcloses, hanswer, -⟩ :=
      close_is_closing_walk.1 (#[] : Array UInt8) encoders order [.write [1, 2]] rfl
    have herror : compressor.close.1 = .failed error := rfl
    rw [herror] at hanswer
    cases answer with
    | ok value => cases hanswer
    | error other =>
      cases hanswer
      exact ⟨chain, visits, finish, hcloses⟩
  · refine ⟨rfl, ?_⟩
    obtain ⟨chain, visits, finish, answer, -, hcloses, hanswer, -⟩ :=
      close_is_closing_walk.2 ([1, 2] : Bytes) decoders order [.read 1] rfl
    have herror : decompressor.close.1 = .error error := rfl
    exact ⟨chain, visits, finish, herror.symm.trans hanswer ▸ hcloses⟩

end ContentCoding
