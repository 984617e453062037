import ContentCoding.OneShot
import ContentCoding.Proofs.Forwarding
import ContentCoding.Proofs.Transcription

/-!
# What layers put out for all that they have taken

What a layer has put out in the end may depend on nothing but the bytes that it has taken: not on
the pieces, not on flushes, and not on how much the writer below takes at a time. Its calls below
may well depend on these. A layer may also refuse data, and then reports a fault at some point.

Layers of this kind one over another are such a layer again. If one of them may refuse data, those
above it have to report the fault. The main statement is that one-shot encoding succeeds if and only
if the layers refuse nothing, and gives what they put out.
-/

namespace ContentCoding

universe u v

/-- What a layer puts out for all that it has taken. Data for which there is nothing are refused. -/
abbrev Rendering := Bytes → Option Bytes

namespace Rendering

variable {upper lower : Rendering} {data : Bytes}

/-- Data are refused whatever comes behind them. -/
def Refuses (rendering : Rendering) (data : Bytes) : Prop := ∀ more, rendering (data ++ more) = none

/-- No data are refused. -/
def Total (rendering : Rendering) : Prop := ∀ data, rendering data ≠ none

/-- One layer over another, which takes what the first puts out. -/
def onto (upper lower : Rendering) : Rendering := fun data => (upper data).bind lower

/-- Over a layer that leaves data as they are nothing is changed. -/
theorem onto_some (rendering : Rendering) : rendering.onto some = rendering :=
  funext fun data => Option.bind_fun_some (rendering data)

/-- It is the same whether the upper two of three layers are taken together or the lower two. -/
theorem onto_assoc (upper middle lower : Rendering) :
    (upper.onto middle).onto lower = upper.onto (middle.onto lower) :=
  funext fun data => Option.bind_assoc (upper data) middle lower

/-- Together two layers refuse what the upper one refuses. -/
theorem onto_eq_none (h : upper data = none) : upper.onto lower data = none := by
  rw [onto, h]
  rfl

/-- They also refuse what the upper one puts something out for that the lower one refuses. -/
theorem onto_of_begins {out got : Bytes} (h : upper data = some out) (hbegins : got <+: out)
    (hrefuses : lower.Refuses got) : upper.onto lower data = none := by
  obtain ⟨more, rfl⟩ := hbegins
  rw [onto, h]
  exact hrefuses more

/-- What the upper one refuses whatever comes behind, both do. -/
theorem Refuses.onto (h : upper.Refuses data) : (upper.onto lower).Refuses data :=
  fun more => onto_eq_none (h more)

/-- With some more behind them, data are refused as well. -/
theorem Refuses.append {rendering : Rendering} (h : rendering.Refuses data) (more : Bytes) :
    rendering.Refuses (data ++ more) := fun later => by
  rw [List.append_assoc]
  exact h (more ++ later)

/-- If a layer refuses nothing, it does not do so whatever comes behind. -/
theorem Total.not_refuses (h : lower.Total) (data : Bytes) : ¬lower.Refuses data :=
  fun hrefuses => h _ (hrefuses [])

/-- Two layers that refuse nothing do not do so together. -/
theorem Total.onto (hu : upper.Total) (hl : lower.Total) : (upper.onto lower).Total := by
  intro data
  obtain ⟨out, hout⟩ := Option.ne_none_iff_exists'.mp (hu data)
  rw [Rendering.onto, hout]
  exact hl out

end Rendering

/-- An answer is a value that satisfies a condition, unless another one holds. Then it may be a
fault other than an interruption. -/
def Except.GivesUnless {α : Type u} (refused : Prop) (post : α → Prop) (answer : Except Fault α) :
    Prop :=
  match answer with
  | .ok value => post value
  | .error fault => fault.isInterruption = false ∧ refused

namespace Push

variable {α : Type u} {β : Type v} {sent : Bytes}

/-- As long as the writer below takes at least a byte of each offer, and flushes, the exchange ends.
What it ends with and the bytes that were taken by then satisfy a condition. -/
def Sends (post : α → Bytes → Prop) : Push α → (sent : Bytes) → Prop
  | .done result, sent => post result sent
  | .write bytes next, sent => bytes ≠ [] ∧ ∀ taken, 1 ≤ taken → taken ≤ bytes.length →
      (next (.ok taken)).Sends post (sent ++ bytes.take taken)
  | .flush next, sent => (next (.ok ())).Sends post sent
  | .remark _ next, sent => next.Sends post sent

namespace Sends

/-- A weaker condition is satisfied as well. -/
theorem mono {post other : α → Bytes → Prop} (hpost : ∀ result sent,
    post result sent → other result sent) {push : Push α} (h : push.Sends post sent) :
    push.Sends other sent := by
  induction push generalizing sent with
  | done result => exact hpost result sent h
  | write bytes next ih =>
    obtain ⟨hne, hall⟩ := h
    exact ⟨hne, fun taken h1 hle => ih _ (hall taken h1 hle)⟩
  | flush next ih => exact ih _ h
  | remark text next ih => exact ih h

/-- One exchange after another sends what both send in turn. -/
theorem bind {post : β → Bytes → Prop} {first : Push α} {second : α → Push β}
    (h : first.Sends (fun result sent => (second result).Sends post sent) sent) :
    (first.bind second).Sends post sent := by
  induction first generalizing sent with
  | done result => exact h
  | write bytes next ih =>
    obtain ⟨hne, hall⟩ := h
    exact ⟨hne, fun taken h1 hle => ih _ (hall taken h1 hle)⟩
  | flush next ih => exact ih _ h
  | remark text next ih => exact ih h

/-- Changing the result of an exchange changes nothing else. -/
theorem map {post : β → Bytes → Prop} {push : Push α} {f : α → β}
    (h : push.Sends (fun result sent => post (f result) sent) sent) :
    (push.map f).Sends post sent := bind h

/-- Two conditions that are satisfied are satisfied at once. -/
theorem and {post other : α → Bytes → Prop} {push : Push α} (h : push.Sends post sent)
    (ho : push.Sends other sent) :
    push.Sends (fun result sent => post result sent ∧ other result sent) sent := by
  induction push generalizing sent with
  | done result => exact ⟨h, ho⟩
  | write bytes next ih =>
    exact ⟨h.1, fun taken h1 hle => ih _ (h.2 taken h1 hle) (ho.2 taken h1 hle)⟩
  | flush next ih => exact ih _ h ho
  | remark text next ih => exact ih h ho

/-- Some end of the exchange goes on from what was sent. -/
theorem exists_end {post : α → Bytes → Prop} {push : Push α} (h : push.Sends post sent) :
    ∃ result total, post result total ∧ sent <+: total := by
  induction push generalizing sent with
  | done result => exact ⟨result, sent, h, List.prefix_rfl⟩
  | write bytes next ih =>
    obtain ⟨hne, hall⟩ := h
    obtain ⟨result, total, hpost, hbegins⟩ :=
      ih _ (hall bytes.length (List.length_pos_iff.mpr hne) (Nat.le_refl _))
    exact ⟨result, total, hpost, (List.prefix_append _ _).trans hbegins⟩
  | flush next ih => exact ih _ h
  | remark text next ih => exact ih h

end Sends

/-- An exchange that performs a script sends its content. -/
theorem Performs.sends {post : α → List Feed → Prop} {push : Push α} {script : List Feed}
    (h : push.Performs post script) (sent : Bytes) :
    push.Sends (fun result total => ∃ rest, post result rest ∧
      sent ++ Feed.content script = total ++ Feed.content rest) sent := by
  induction push generalizing script sent with
  | done result => exact ⟨script, h, rfl⟩
  | write bytes next ih =>
    obtain ⟨later, hne, rfl, hall⟩ := h
    refine ⟨hne, fun taken h1 hle => (ih _ (hall taken h1 hle) _).mono ?_⟩
    rintro result total ⟨rest, hpost, htotal⟩
    refine ⟨rest, hpost, ?_⟩
    rw [← htotal, Feed.content_rest, Feed.content, List.append_assoc,
      ← List.append_assoc (bytes.take taken), List.take_append_drop]
  | flush next ih =>
    obtain ⟨later, rfl, hnext⟩ := h
    exact ih _ hnext sent
  | remark text next ih => exact ih h sent

/-- An exchange that calls nothing ends in the same way over every writer. -/
theorem Concludes.result {W : Type v} (writer : Writer W) {post : α → Prop} {push : Push α}
    (h : push.Concludes post) (world : W) : post (push.run writer world).1 := by
  induction push generalizing world with
  | done result => exact h
  | write bytes next ih => exact h.elim
  | flush next ih => exact h.elim
  | remark text next ih => exact ih h _

end Push

/-- A writer of which a relation tells the bytes that it has taken takes at least one byte of each
offer, and flushes, unless there are bytes that it refuses among those taken and offered. -/
structure Writer.Renders {W : Type v} (writer : Writer W) (rendering : Rendering)
    (holds : W → Bytes → Prop) : Prop where
  /-- Some of what is offered is taken. -/
  write : ∀ world got data, data ≠ [] → holds world got →
    Except.GivesUnless (rendering.Refuses (got ++ data)) (fun count => 1 ≤ count ∧
      count ≤ data.length ∧ holds (writer.write world data).2 (got ++ data.take count))
      (writer.write world data).1
  /-- A flush takes nothing. -/
  flush : ∀ world got, holds world got →
    Except.GivesUnless (rendering.Refuses got) (fun _ => holds (writer.flush world).2 got)
      (writer.flush world).1
  /-- Nor does a line. -/
  remark : ∀ world text got, holds world got → holds (writer.remark world text) got

/-- An exchange over a writer ends as it should, unless the writer has reported a fault. Then it
forwards the fault, and has offered bytes that the writer refuses. -/
theorem Push.Sends.run {W : Type v} {writer : Writer W} {rendering : Rendering}
    {holds : W → Bytes → Prop} (hw : writer.Renders rendering holds) {α : Type u}
    {post : α → Bytes → Prop} {report : Fault → α → Prop} {push : Push α} {sent : Bytes} {world : W}
    (h : push.Sends post sent) (hreports : rendering.Total ∨ push.Forwards report)
    (hworld : holds world sent) :
    (∃ total, post (push.run writer world).1 total ∧ holds (push.run writer world).2 total) ∨
      ∃ fault, fault.isInterruption = false ∧ report fault (push.run writer world).1 ∧
        ∃ result total got, post result total ∧ got <+: total ∧ rendering.Refuses got := by
  induction push generalizing sent world with
  | done result => exact .inl ⟨sent, h, hworld⟩
  | write bytes next ih =>
    obtain ⟨hne, hall⟩ := h
    have hanswer := hw.write world sent bytes hne hworld
    rw [Push.run]
    generalize writer.write world bytes = written at hanswer
    obtain ⟨answer, after⟩ := written
    cases answer with
    | ok count =>
      obtain ⟨h1, hle, hafter⟩ := hanswer
      exact ih _ (hall count h1 hle) (hreports.imp_right fun hforwards => hforwards.1 _) hafter
    | error fault =>
      obtain ⟨hfault, hrefuses⟩ := hanswer
      have hforwards := hreports.resolve_left fun htotal => htotal.not_refuses _ hrefuses
      -- Had the offer been taken, the exchange would have gone on from there.
      have hgone := hall bytes.length (List.length_pos_iff.mpr hne) (Nat.le_refl _)
      rw [List.take_length] at hgone
      obtain ⟨result, total, hpost, hbegins⟩ := hgone.exists_end
      exact .inr ⟨fault, hfault, (hforwards.2 fault hfault).result writer after, result, total, _,
        hpost, hbegins, hrefuses⟩
  | flush next ih =>
    have hanswer := hw.flush world sent hworld
    rw [Push.run]
    generalize writer.flush world = flushed at hanswer
    obtain ⟨answer, after⟩ := flushed
    cases answer with
    | ok _ => exact ih _ h (hreports.imp_right fun hforwards => hforwards.1 _) hanswer
    | error fault =>
      obtain ⟨hfault, hrefuses⟩ := hanswer
      have hforwards := hreports.resolve_left fun htotal => htotal.not_refuses _ hrefuses
      obtain ⟨result, total, hpost, hbegins⟩ := h.exists_end
      exact .inr ⟨fault, hfault, (hforwards.2 fault hfault).result writer after, result, total, _,
        hpost, hbegins, hrefuses⟩
  | remark text next ih => exact ih h hreports (hw.remark world text sent hworld)

/-- A call of a layer over a writer answers as it should. It may report a fault if the layer refuses
what it takes, or the writer what the layer sends for it: both refuse that together. -/
theorem Push.Sends.answers {W : Type v} {writer : Writer W} {lower : Rendering}
    {holds : W → Bytes → Prop} (hw : writer.Renders lower holds) {α S : Type}
    {post : α → Except Fault α × S → Bytes → Prop} {refused both : Prop}
    {push : Push (Except Fault α × S)} {sent : Bytes} {world : W}
    (h : push.Sends (fun result sent =>
      Except.GivesUnless refused (fun value => post value result sent) result.1) sent)
    (hreports : lower.Total ∨ push.Forwards fun fault result => result.1 = .error fault)
    (hworld : holds world sent) (hrefused : refused → both)
    (hsends : ∀ value result total got, post value result total → got <+: total →
      lower.Refuses got → both) :
    Except.GivesUnless both (fun value => ∃ total, post value (push.run writer world).1 total ∧
      holds (push.run writer world).2 total) (push.run writer world).1.1 := by
  have hrun := h.run hw hreports hworld
  generalize push.run writer world = ran at hrun
  obtain ⟨⟨answer, after⟩, left⟩ := ran
  obtain ⟨total, hanswer, hleft⟩ | ⟨fault, hfault, rfl, ⟨would, state⟩, total, got, hgone, hbegins,
    hrefuses⟩ := hrun
  · cases answer with
    | ok value => exact ⟨total, hanswer, hleft⟩
    | error fault => exact ⟨hanswer.1, hrefused hanswer.2⟩
  · refine ⟨hfault, ?_⟩
    cases would with
    | ok value => exact hsends value _ total got hgone hbegins hrefuses
    | error fault => exact hrefused hgone.2

namespace Encoder

variable (encoder : Encoder)

/-- A relation between states, the bytes that the layer has taken, and those that the writer below
has taken from it, which every call respects. -/
structure RendersBy (rendering : Rendering) (holds : encoder.State → (taken sent : Bytes) → Prop) :
    Prop where
  /-- A write takes some of the data. -/
  write : ∀ state taken sent data, data ≠ [] → holds state taken sent →
    (encoder.write state data).Sends (fun result sent =>
      Except.GivesUnless (rendering.Refuses (taken ++ data)) (fun count => 1 ≤ count ∧
        count ≤ data.length ∧ holds result.2 (taken ++ data.take count) sent) result.1) sent
  /-- A flush takes nothing. -/
  flush : ∀ state taken sent, holds state taken sent →
    (encoder.flush state).Sends (fun result sent =>
      Except.GivesUnless (rendering.Refuses taken) (fun _ => holds result.2 taken sent) result.1)
      sent
  /-- When the layer is finalized, it has put out what it is to put out, and exposes the layer
  below. -/
  close : ∀ state taken sent, holds state taken sent →
    (encoder.closing state).Sends (fun result sent =>
      Except.GivesUnless (rendering taken = none) (fun _ => encoder.exposes result.2 = true ∧
        rendering taken = some sent) result.1) sent

/-- A layer that has taken some bytes, and from which the writer below has taken others, renders
data. -/
def Renders (rendering : Rendering) (state : encoder.State) (taken sent : Bytes) : Prop :=
  ∃ holds, encoder.RendersBy rendering holds ∧ holds state taken sent

namespace Renders

variable {encoder} {rendering : Rendering} {state : encoder.State} {taken sent : Bytes}

/-- A write takes some of the data. -/
theorem write (h : encoder.Renders rendering state taken sent) {data : Bytes} (hd : data ≠ []) :
    (encoder.write state data).Sends (fun result sent =>
      Except.GivesUnless (rendering.Refuses (taken ++ data)) (fun count => 1 ≤ count ∧
        count ≤ data.length ∧ encoder.Renders rendering result.2 (taken ++ data.take count) sent)
        result.1) sent := by
  obtain ⟨holds, hrendered, hstate⟩ := h
  refine (hrendered.write state taken sent data hd hstate).mono ?_
  rintro ⟨answer, after⟩ sent hanswer
  cases answer with
  | ok count => exact ⟨hanswer.1, hanswer.2.1, holds, hrendered, hanswer.2.2⟩
  | error fault => exact hanswer

/-- A flush takes nothing. -/
theorem flush (h : encoder.Renders rendering state taken sent) :
    (encoder.flush state).Sends (fun result sent =>
      Except.GivesUnless (rendering.Refuses taken)
        (fun _ => encoder.Renders rendering result.2 taken sent) result.1) sent := by
  obtain ⟨holds, hrendered, hstate⟩ := h
  refine (hrendered.flush state taken sent hstate).mono ?_
  rintro ⟨answer, after⟩ sent hanswer
  cases answer with
  | ok _ => exact ⟨holds, hrendered, hanswer⟩
  | error fault => exact hanswer

/-- When the layer is finalized, it has put out what it is to put out. -/
theorem close (h : encoder.Renders rendering state taken sent) :
    (encoder.closing state).Sends (fun result sent =>
      Except.GivesUnless (rendering taken = none) (fun _ => encoder.exposes result.2 = true ∧
        rendering taken = some sent) result.1) sent := by
  obtain ⟨holds, hrendered, hstate⟩ := h
  exact hrendered.close state taken sent hstate

/-- What a layer has put out before it is finalized is how all of it begins, whatever it takes in
the meantime. -/
theorem begins_with_sent {more out : Bytes} (h : encoder.Renders rendering state taken sent)
    (hout : rendering (taken ++ more) = some out) : sent <+: out := by
  -- The layer takes what is left one offer at a time.
  induction hn : more.length using Nat.strongRecOn generalizing state taken sent more with
  | _ left ih =>
    subst hn
    by_cases hmore : more = []
    · subst hmore
      rw [List.append_nil] at hout
      obtain ⟨⟨answer, after⟩, total, hanswer, hbegins⟩ := h.close.exists_end
      cases answer with
      | ok _ =>
        obtain rfl := Option.some.inj (hanswer.2.symm.trans hout)
        exact hbegins
      | error fault => exact absurd (hanswer.2.symm.trans hout) (Option.some_ne_none out).symm
    · obtain ⟨⟨answer, after⟩, total, hanswer, hbegins⟩ := (h.write hmore).exists_end
      cases answer with
      | ok count =>
        obtain ⟨h1, hle, hafter⟩ := hanswer
        have hless : (more.drop count).length < more.length := by
          rw [List.length_drop]
          omega
        have hrest : rendering (taken ++ more.take count ++ more.drop count) = some out := by
          rw [List.append_assoc, List.take_append_drop]
          exact hout
        exact hbegins.trans (ih _ hless hafter hrest rfl)
      | error fault =>
        have hnone := hanswer.2 []
        rw [List.append_nil] at hnone
        exact absurd (hnone.symm.trans hout) (Option.some_ne_none out).symm

/-- If a layer has put out what the layers below refuse, they refuse together whatever comes behind
what it has taken. -/
theorem refuses {lower : Rendering} {got : Bytes} (h : encoder.Renders rendering state taken sent)
    (hbegins : got <+: sent) (hrefuses : lower.Refuses got) :
    (rendering.onto lower).Refuses taken := by
  intro more
  cases hout : rendering (taken ++ more) with
  | none => exact Rendering.onto_eq_none hout
  | some out =>
    exact Rendering.onto_of_begins hout (hbegins.trans (h.begins_with_sent hout)) hrefuses

end Renders

variable {encoder} in
/-- A layer that forwards faults does so when a close finalizes it. -/
theorem Forwards.closing (h : encoder.Forwards) (state : encoder.State) :
    (encoder.closing state).Forwards fun fault result => result.1 = .error fault := by
  rw [Encoder.closing]
  split
  · exact h.finalize state
  · trivial

end Encoder

namespace EncoderStack

/-- The layers render data one after another, from the top down. A layer over some that may refuse
data forwards faults. -/
def Renders : {depth : Nat} → EncoderStack depth → Rendering → (taken sent : Bytes) → Prop
  | _, .bottom, rendering, taken, sent => rendering = some ∧ sent = taken
  | _, .layer _ encoder state below, rendering, taken, sent =>
    ∃ own lower between, encoder.Renders own state taken between ∧
      (lower.Total ∨ encoder.Forwards) ∧ Renders below lower between sent ∧
      rendering = own.onto lower

variable {σ : Type} [Sink σ]

/-- The layers render data, and the outlet is attached to a sink with the bytes. -/
def Forms (received : σ → Bytes → Prop) (rendering : Rendering) {depth : Nat}
    (world : EncoderStack depth × Outlet σ) (taken : Bytes) : Prop :=
  world.2.attached = true ∧ ∃ sent, Renders world.1 rendering taken sent ∧
    received world.2.sink sent

variable {received : σ → Bytes → Prop} {rendering : Rendering}

omit [Sink σ] in
/-- A stack renders data if its top layer does and the rest renders what that puts out. -/
theorem forms_layer {depth : Nat} {name : String} {encoder : Encoder} {state : encoder.State}
    {below : EncoderStack depth} {outlet : Outlet σ} {taken : Bytes} :
    Forms received rendering (.layer name encoder state below, outlet) taken ↔
      ∃ own lower between, encoder.Renders own state taken between ∧
        (lower.Total ∨ encoder.Forwards) ∧ Forms received lower (below, outlet) between ∧
        rendering = own.onto lower := by
  constructor
  · rintro ⟨hattached, sent, ⟨own, lower, between, hrenders, hreports, hbelow, rfl⟩, hgot⟩
    exact ⟨own, lower, between, hrenders, hreports, ⟨hattached, sent, hbelow, hgot⟩, rfl⟩
  · rintro ⟨own, lower, between, hrenders, hreports, ⟨hattached, sent, hbelow, hgot⟩, rfl⟩
    exact ⟨hattached, sent, ⟨own, lower, between, hrenders, hreports, hbelow, rfl⟩, hgot⟩

/-- A stack over a sink that takes something of every offer does so as well, unless one of its
layers refuses that. -/
theorem writer_renders (hr : Sink.Collects received) (depth : Nat) :
    (writer depth).Renders rendering (Forms (σ := σ) received rendering) := by
  induction depth generalizing rendering with
  | zero =>
    refine ⟨?_, ?_, fun _ _ _ h => h⟩
    · rintro ⟨⟨⟩, outlet⟩ taken data hd ⟨hattached, sent, ⟨rfl, rfl⟩, hgot⟩
      obtain ⟨count, h1, hle, hanswer, hafter, hnext⟩ :=
        outlet.write_collects hr hattached hgot hd
      have hwrite : ((writer 0).write (.bottom, outlet) data).1 = .ok count := hanswer
      rw [hwrite]
      exact ⟨h1, hle, hafter, _, ⟨rfl, rfl⟩, hnext⟩
    · rintro ⟨⟨⟩, outlet⟩ taken ⟨hattached, sent, ⟨rfl, rfl⟩, hgot⟩
      obtain ⟨hanswer, hafter, hnext⟩ := outlet.flush_collects hr hattached hgot
      have hflush : ((writer 0).flush (.bottom, outlet)).1 = .ok () := hanswer
      rw [hflush]
      exact ⟨hafter, _, ⟨rfl, rfl⟩, hnext⟩
  | succ depth ih =>
    refine ⟨?_, ?_, fun _ _ _ h => h⟩
    · rintro ⟨⟨⟩, outlet⟩ taken data hd h
      rename_i name encoder state below
      obtain ⟨own, lower, between, hrenders, hreports, hbelow, rfl⟩ := forms_layer.mp h
      have hanswer := (hrenders.write hd).answers ih
        (hreports.imp_right fun hforwards => hforwards.write state data) hbelow
        Rendering.Refuses.onto fun count _ _ _ hgone hbegins hrefuses => by
          have hall := (hgone.2.2.refuses hbegins hrefuses).append (data.drop count)
          rwa [List.append_assoc, List.take_append_drop] at hall
      simp only [writer]
      generalize (encoder.write state data).run (writer depth) (below, outlet) = ran at hanswer
      obtain ⟨⟨answer, after⟩, rest, left⟩ := ran
      cases answer with
      | ok count =>
        obtain ⟨total, ⟨h1, hle, hafter⟩, hleft⟩ := hanswer
        exact ⟨h1, hle, forms_layer.mpr ⟨own, lower, total, hafter, hreports, hleft, rfl⟩⟩
      | error fault => exact hanswer
    · rintro ⟨⟨⟩, outlet⟩ taken h
      rename_i name encoder state below
      obtain ⟨own, lower, between, hrenders, hreports, hbelow, rfl⟩ := forms_layer.mp h
      have hanswer := hrenders.flush.answers ih
        (hreports.imp_right fun hforwards => hforwards.flush state) hbelow
        Rendering.Refuses.onto fun _ _ _ _ hgone hbegins hrefuses =>
          hgone.refuses hbegins hrefuses
      simp only [writer]
      generalize (encoder.flush state).run (writer depth) (below, outlet) = ran at hanswer
      obtain ⟨⟨answer, after⟩, rest, left⟩ := ran
      cases answer with
      | ok _ =>
        obtain ⟨total, hafter, hleft⟩ := hanswer
        exact forms_layer.mpr ⟨own, lower, total, hafter, hreports, hleft, rfl⟩
      | error fault => exact hanswer

/-- The close of a stack succeeds if and only if nothing of what was taken is refused, and the sink
then has what the layers render it as. -/
theorem finalizeAlong_renders (hr : Sink.Collects received) {depth : Nat}
    {stack : EncoderStack depth} {outlet : Outlet σ} {entries : List (String × Nat)} {taken : Bytes}
    (hlen : entries.length = depth) (h : Forms received rendering (stack, outlet) taken) :
    match (Stack.finalizeAlong entries stack outlet).1 with
    | .ok _ => ∃ out, rendering taken = some out ∧
        received (Stack.finalizeAlong entries stack outlet).2.2.sink out
    | .error _ => rendering taken = none := by
  induction depth generalizing entries outlet rendering taken with
  | zero =>
    cases stack
    obtain rfl := List.length_eq_zero_iff.mp hlen
    obtain ⟨-, sent, ⟨rfl, rfl⟩, hgot⟩ := h
    exact ⟨sent, rfl, hgot⟩
  | succ depth ih =>
    obtain _ | @⟨_, name, encoder, state, below⟩ := stack
    obtain _ | ⟨⟨entry, index⟩, entries⟩ := entries
    · cases hlen
    obtain ⟨own, lower, between, hrenders, hreports, hbelow, rfl⟩ := forms_layer.mp h
    have hanswer := hrenders.close.answers (writer_renders hr depth)
      (hreports.imp_right fun hforwards => hforwards.closing state) hbelow
      Rendering.onto_eq_none fun _ _ _ _ hgone hbegins hrefuses =>
        Rendering.onto_of_begins hgone.2 hbegins hrefuses
    rw [Stack.finalizeAlong_layer, meet_eq]
    generalize (encoder.closing state).run (writer depth) (below, outlet) = met at hanswer
    obtain ⟨⟨answer, after⟩, rest, left⟩ := met
    cases answer with
    | ok _ =>
      obtain ⟨total, ⟨hexposes, htotal⟩, hleft⟩ := hanswer
      have he : LayerKind.exposes encoder after = true := hexposes
      have hboth : own.onto lower taken = lower total := by rw [Rendering.onto, htotal]; rfl
      rw [hboth]
      simp only [if_pos he]
      exact ih (Nat.succ.inj hlen) hleft
    | error fault => exact hanswer.2

end EncoderStack

namespace EncoderRegistry

variable {registry : EncoderRegistry} {refusing : Bool}

/-- The layers of some names, the first of them lowest, render data one after another. Either none
of them refuses data, or all of them forward faults. -/
def Renders (registry : EncoderRegistry) (refusing : Bool) : List String → Rendering → Prop
  | [], rendering => rendering = some
  | name :: names, rendering =>
    ∃ upper own encoder first, Renders registry refusing names upper ∧
      registry.Gives name encoder first ∧ encoder.Renders own first [] [] ∧
      (if refusing then encoder.Forwards else own.Total) ∧ rendering = upper.onto own

/-- The layers of some names over those of others render what the upper ones put out. -/
theorem Renders.append {lower upper : List String} {rendering other : Rendering}
    (hl : registry.Renders refusing lower rendering) (hu : registry.Renders refusing upper other) :
    registry.Renders refusing (lower ++ upper) (other.onto rendering) := by
  induction lower generalizing rendering with
  | nil =>
    obtain rfl : rendering = some := hl
    rw [Rendering.onto_some]
    exact hu
  | cons name lower ih =>
    obtain ⟨between, own, encoder, first, hbetween, hgives, hrenders, hown, rfl⟩ := hl
    exact ⟨other.onto between, own, encoder, first, ih hbetween, hgives, hrenders, hown,
      (Rendering.onto_assoc _ _ _).symm⟩

variable {σ : Type} [Sink σ]

end EncoderRegistry

namespace Compressor

variable {σ : Type} [Sink σ]

/-- The chain stands and renders data. -/
def Forms (received : σ → Bytes → Prop) (rendering : Rendering) (compressor : Compressor σ)
    (taken : Bytes) : Prop :=
  ∃ chain : EncoderChain, compressor.guard = ⟨.built, none, .built chain⟩ ∧
    chain.names.length = chain.depth ∧
    EncoderStack.Forms received rendering (chain.stack, compressor.outlet) taken

variable {received : σ → Bytes → Prop} {rendering : Rendering} {compressor : Compressor σ}
variable {taken data : Bytes}

/-- A write takes some of the data, unless they are refused. -/
theorem Forms.write (hr : Sink.Collects received) (h : compressor.Forms received rendering taken)
    (hd : data ≠ []) :
    ∃ answer, (compressor.write data).1 = .ofExcept answer ∧
      Except.GivesUnless (rendering.Refuses (taken ++ data)) (fun count => 1 ≤ count ∧
        count ≤ data.length ∧
        (compressor.write data).2.Forms received rendering (taken ++ data.take count)) answer := by
  obtain ⟨chain, hguard, hlen, hforms⟩ := h
  have hanswer :=
    (EncoderStack.writer_renders hr chain.depth).write _ taken data hd hforms
  have hchain : ((EncoderStack.writer chain.depth).write (chain.stack, compressor.outlet) data).1 =
      (EncoderChain.write data chain compressor.outlet).1 := rfl
  have hstate := congrArg InitGuard.state hguard
  refine ⟨(EncoderChain.write data chain compressor.outlet).1, ?_, ?_⟩
  · simp only [write_eq, init_of_chain hguard, writeBuilt_of_built hstate]
  · rw [hchain] at hanswer
    simp only [write_eq, init_of_chain hguard, writeBuilt_of_built hstate]
    generalize (EncoderChain.write data chain compressor.outlet).1 = answer at hanswer
    cases answer with
    | error fault => exact hanswer
    | ok count =>
      exact ⟨hanswer.1, hanswer.2.1, (EncoderChain.write data chain compressor.outlet).2.1,
        by rw [hguard], hlen, hanswer.2.2⟩

/-- Writing all of the data succeeds, unless they are refused. -/
theorem Forms.writeAllFor (hr : Sink.Collects received) {attempts : Nat}
    (h : compressor.Forms received rendering taken) (hle : data.length ≤ attempts) :
    match (Compressor.writeAllFor attempts compressor data).1 with
    | .done _ => (Compressor.writeAllFor attempts compressor data).2.Forms received rendering
        (taken ++ data)
    | .failed _ => rendering.Refuses (taken ++ data)
    | .crashed => False := by
  induction attempts generalizing compressor taken data with
  | zero =>
    obtain rfl := List.length_eq_zero_iff.mp (Nat.le_zero.mp hle)
    rw [List.append_nil]
    exact h
  | succ attempts ih =>
    cases data with
    | nil =>
      rw [List.append_nil]
      exact h
    | cons byte bytes =>
      obtain ⟨answer, hwritten, hanswer⟩ := h.write hr (List.cons_ne_nil byte bytes)
      simp only [Compressor.writeAllFor]
      generalize compressor.write (byte :: bytes) = written at hwritten hanswer
      obtain ⟨outcome, after⟩ := written
      dsimp only at hwritten
      subst hwritten
      cases answer with
      | error fault =>
        simp only [Outcome.ofExcept, hanswer.1, Bool.false_eq_true, if_false]
        exact hanswer.2
      | ok count =>
        obtain ⟨h1, -, hafter⟩ := hanswer
        obtain ⟨count, rfl⟩ := Nat.exists_eq_succ_of_ne_zero (Nat.one_le_iff_ne_zero.mp h1)
        have hless : ((byte :: bytes).drop (count + 1)).length ≤ attempts := by
          rw [List.length_drop]
          rw [List.length_cons] at hle ⊢
          omega
        have hrest := ih hafter hless
        rw [List.append_assoc, List.take_append_drop] at hrest
        exact hrest

/-- A close succeeds if and only if nothing of what was taken is refused, and the sink then has what
the layers render it as. -/
theorem Forms.close (hr : Sink.Collects received)
    (h : compressor.Forms received rendering taken) :
    match compressor.close.1 with
    | .done _ => ∃ out, rendering taken = some out ∧ received compressor.close.2.outlet.sink out
    | .failed _ => rendering taken = none
    | .crashed => False := by
  obtain ⟨chain, hguard, hlen, hforms⟩ := h
  have hentries : chain.names.zipIdx.reverse.length = chain.depth := by
    rw [List.length_reverse, List.length_zipIdx, hlen]
  have hwalk := EncoderStack.finalizeAlong_renders hr hentries hforms
  have hunbuilt : compressor.guard.isUnbuilt = false := by rw [hguard]; rfl
  have hstate := congrArg InitGuard.state hguard
  have hall : (chain.finalizeAll compressor.outlet).1 =
      (Stack.finalizeAlong chain.names.zipIdx.reverse chain.stack compressor.outlet).1 := rfl
  rw [close_of_settled hunbuilt, finish_sink hstate, finish_of_built hstate, hall]
  cases hanswer : (Stack.finalizeAlong chain.names.zipIdx.reverse chain.stack
      compressor.outlet).1 with
  | ok _ =>
    rw [hanswer] at hwalk
    exact hwalk
  | error error =>
    rw [hanswer] at hwalk
    exact hwalk

end Compressor

end ContentCoding
