import ContentCoding.Proofs.Isolation

/-!
# What a chain of encoders writes

A script is what a writer is to take: pieces of data, each of them offered until
all of it has been taken, and flushes. An exchange performs a script if it makes
these calls and no others, whatever number of bytes, at least one, each of its
writes is answered with. An encoder transcribes a script into another if it
answers every call of the first and, finalized once, has performed the second on
the writer below. The second script does not depend on how many bytes the writer
below takes at a time, so neither do the bytes.

The main statements follow a script down a stack, through the close of the stack
and through a compressor: over a sink that takes at least one byte per write
every call returns, and the sink ends up with the content of the last script.
-/

namespace ContentCoding

universe u v

/-- What a writer is to take at one point of a script. -/
inductive Feed
  /-- All of the data. -/
  | piece (data : Bytes)
  /-- A flush. -/
  | flush

namespace Feed

/-- The data of a script. -/
def content : List Feed → Bytes
  | [] => []
  | .piece data :: later => data ++ content later
  | .flush :: later => content later

/-- How many bytes are to be taken. -/
def size : Feed → Nat
  | .piece data => data.length
  | .flush => 0

/-- What is to be taken when some data of a piece are left and a script comes later. -/
def rest (left : Bytes) (later : List Feed) : List Feed :=
  match left with
  | [] => later
  | left => .piece left :: later

/-- A script without the pieces that have no data. -/
def filled : List Feed → List Feed
  | [] => []
  | .piece [] :: later => filled later
  | feed :: later => feed :: filled later

/-- Every piece of a script has data. -/
def Proper (script : List Feed) : Prop := ∀ data, .piece data ∈ script → data ≠ []

/-- The content of a script does not depend on how its first piece is cut. -/
theorem content_rest (left : Bytes) (later : List Feed) :
    content (rest left later) = left ++ content later := by
  cases left <;> rfl

/-- The content of a script is that of its first part and of its last. -/
theorem content_append (first last : List Feed) :
    content (first ++ last) = content first ++ content last := by
  induction first with
  | nil => rfl
  | cons feed first ih =>
    cases feed with
    | piece data =>
      rw [List.cons_append, content, content, ih, List.append_assoc]
    | flush => exact ih

/-- Data that are left are taken before the later script. -/
theorem rest_eq_append (left : Bytes) (later : List Feed) :
    rest left later = rest left [] ++ later := by
  cases left <;> rfl

/-- What is left of a piece is proper. -/
theorem proper_rest (left : Bytes) : Proper (rest left []) := by
  cases left with
  | nil => exact nofun
  | cons byte left =>
    intro data hmem
    cases List.mem_singleton.mp hmem
    exact List.cons_ne_nil _ _

/-- One proper script after another is proper. -/
theorem Proper.append {first last : List Feed} (hf : Proper first) (hl : Proper last) :
    Proper (first ++ last) := by
  intro data hmem
  exact (List.mem_append.mp hmem).elim (hf data) (hl data)

end Feed

/-- The exchange makes the calls of a first part of a script, in order and none else, whatever
number of bytes from one up the writer below takes of each offer. What it ends with and what
is left of the script satisfy a condition. -/
def Push.Performs {α : Type u} (post : α → List Feed → Prop) : Push α → List Feed → Prop
  | .done result, script => post result script
  | .write bytes next, script =>
    ∃ later, bytes ≠ [] ∧ script = .piece bytes :: later ∧
      ∀ taken, 1 ≤ taken → taken ≤ bytes.length →
        (next (.ok taken)).Performs post (Feed.rest (bytes.drop taken) later)
  | .flush next, script =>
    ∃ later, script = .flush :: later ∧ (next (.ok ())).Performs post later
  | .remark _ next, script => next.Performs post script

namespace Push.Performs

variable {α : Type u} {β : Type v}

/-- A weaker condition is satisfied as well. -/
theorem mono {post other : α → List Feed → Prop} (hpost : ∀ result rest,
    post result rest → other result rest) {push : Push α} {script : List Feed}
    (h : push.Performs post script) : push.Performs other script := by
  induction push generalizing script with
  | done result => exact hpost result script h
  | write bytes next ih =>
    obtain ⟨later, hne, hscript, hall⟩ := h
    exact ⟨later, hne, hscript, fun taken h1 hle => ih _ (hall taken h1 hle)⟩
  | flush next ih =>
    obtain ⟨later, hscript, hnext⟩ := h
    exact ⟨later, hscript, ih _ hnext⟩
  | remark text next ih => exact ih h

/-- One exchange after another performs what both perform in turn. -/
theorem bind {post : β → List Feed → Prop} {first : Push α} {second : α → Push β}
    {script : List Feed}
    (h : first.Performs (fun result rest => (second result).Performs post rest) script) :
    (first.bind second).Performs post script := by
  induction first generalizing script with
  | done result => exact h
  | write bytes next ih =>
    obtain ⟨later, hne, hscript, hall⟩ := h
    exact ⟨later, hne, hscript, fun taken h1 hle => ih _ (hall taken h1 hle)⟩
  | flush next ih =>
    obtain ⟨later, hscript, hnext⟩ := h
    exact ⟨later, hscript, ih _ hnext⟩
  | remark text next ih => exact ih h

/-- Changing the result of an exchange changes nothing else. -/
theorem map {post : β → List Feed → Prop} {push : Push α} {f : α → β} {script : List Feed}
    (h : push.Performs (fun result rest => post (f result) rest) script) :
    (push.map f).Performs post script := bind h

end Push.Performs

/-- Delivering a piece performs it. -/
theorem Push.deliverFor_performs (rule : DeliveryRule) {attempts : Nat} {bytes : Bytes}
    (h : bytes.length ≤ attempts) (later : List Feed) :
    (deliverFor rule attempts bytes).Performs
      (fun delivery rest => delivery = ⟨.ok (), []⟩ ∧ rest = later) (Feed.rest bytes later) := by
  induction attempts generalizing bytes with
  | zero =>
    obtain rfl := List.length_eq_zero_iff.mp (Nat.le_zero.mp h)
    exact ⟨rfl, rfl⟩
  | succ attempts ih =>
    cases bytes with
    | nil => exact ⟨rfl, rfl⟩
    | cons byte bytes =>
      refine ⟨later, List.cons_ne_nil _ _, rfl, fun taken h1 hle => ?_⟩
      obtain ⟨count, rfl⟩ := Nat.exists_eq_succ_of_ne_zero (Nat.one_le_iff_ne_zero.mp h1)
      refine ih ?_
      rw [List.length_drop]
      omega

/-- Writing all of a piece performs it. -/
theorem Push.writeAll_performs (patience : Nat) (bytes : Bytes) (later : List Feed) :
    (writeAll patience bytes).Performs (fun answer rest => answer = .ok () ∧ rest = later)
      (Feed.rest bytes later) := by
  have h := deliverFor_performs .complete (Nat.le_add_right bytes.length patience) later
  exact Performs.map (h.mono fun delivery rest hd => ⟨congrArg Delivery.outcome hd.1, hd.2⟩)

/-- The exchange performs all of a script and ends with a certain result. -/
def Push.Ends {α : Type u} (push : Push α) (result : α) (script : List Feed) : Prop :=
  ∀ later, push.Performs (fun answer rest => answer = result ∧ rest = later) (script ++ later)

namespace Push.Ends

variable {α : Type u} {β : Type v}

/-- One exchange after another performs one script after another. -/
theorem bind {first : Push α} {second : α → Push β} {middle : α} {result : β}
    {script other : List Feed} (hf : first.Ends middle script)
    (hs : (second middle).Ends result other) :
    (first.bind second).Ends result (script ++ other) := by
  intro later
  rw [List.append_assoc]
  refine Performs.bind ((hf (other ++ later)).mono ?_)
  rintro answer rest ⟨rfl, rfl⟩
  exact hs later

/-- Writing all of a piece performs it. -/
theorem writeAll (patience : Nat) (bytes : Bytes) :
    (Push.writeAll patience bytes).Ends (.ok ()) (Feed.rest bytes []) := by
  intro later
  rw [← Feed.rest_eq_append]
  exact Push.writeAll_performs patience bytes later

end Push.Ends

/-- A writer in a world from which it is to take a script takes some of each piece offered and
flushes, and is left with the rest of the script to take. -/
structure Writer.Takes {W : Type v} (writer : Writer W) (expects : W → List Feed → Prop) :
    Prop where
  /-- Of a piece at least one byte is taken. -/
  piece : ∀ world data later, data ≠ [] → expects world (.piece data :: later) →
    ∃ taken, 1 ≤ taken ∧ taken ≤ data.length ∧ (writer.write world data).1 = .ok taken ∧
      expects (writer.write world data).2 (Feed.rest (data.drop taken) later)
  /-- A flush succeeds. -/
  flush : ∀ world later, expects world (.flush :: later) →
    (writer.flush world).1 = .ok () ∧ expects (writer.flush world).2 later
  /-- Adding a line changes nothing about that. -/
  remark : ∀ world text script, expects world script → expects (writer.remark world text) script

/-- An exchange performs its part of a script on a writer that is to take it. -/
theorem Push.Performs.run {W : Type v} {writer : Writer W} {expects : W → List Feed → Prop}
    (hw : writer.Takes expects) {α : Type u} {post : α → List Feed → Prop} {push : Push α}
    {script : List Feed} {world : W} (h : push.Performs post script)
    (he : expects world script) :
    ∃ rest, post (push.run writer world).1 rest ∧ expects (push.run writer world).2 rest := by
  induction push generalizing script world with
  | done result => exact ⟨script, h, he⟩
  | write bytes next ih =>
    obtain ⟨later, hne, rfl, hall⟩ := h
    obtain ⟨taken, h1, hle, hanswer, hnext⟩ := hw.piece world bytes later hne he
    have hrest := ih _ (hall taken h1 hle) hnext
    rw [← hanswer] at hrest
    exact hrest
  | flush next ih =>
    obtain ⟨later, rfl, hall⟩ := h
    obtain ⟨hanswer, hnext⟩ := hw.flush world later he
    have hrest := ih _ hall hnext
    rw [← hanswer] at hrest
    exact hrest
  | remark text next ih => exact ih h (hw.remark world text script he)

/-- A writer of which a relation tells the bytes that it has received takes at least one byte per
write, and flushes. -/
structure Writer.Collects {W : Type v} (writer : Writer W) (received : W → Bytes → Prop) :
    Prop where
  /-- Some of what is offered is received. -/
  write : ∀ world got data, data ≠ [] → received world got →
    ∃ taken, 1 ≤ taken ∧ taken ≤ data.length ∧ (writer.write world data).1 = .ok taken ∧
      received (writer.write world data).2 (got ++ data.take taken)
  /-- A flush succeeds. -/
  flush : ∀ world got, received world got →
    (writer.flush world).1 = .ok () ∧ received (writer.flush world).2 got
  /-- Adding a line changes nothing about that. -/
  remark : ∀ world text got, received world got → received (writer.remark world text) got

/-- A writer that collects bytes is to take any script, and then has received its content. -/
theorem Writer.Collects.takes {W : Type v} {writer : Writer W} {received : W → Bytes → Prop}
    (hw : writer.Collects received) (total : Bytes) :
    writer.Takes fun world script =>
      ∃ got, received world got ∧ total = got ++ Feed.content script := by
  refine ⟨?_, ?_, ?_⟩
  · rintro world data later hd ⟨got, hgot, rfl⟩
    obtain ⟨taken, h1, hle, hanswer, hnext⟩ := hw.write world got data hd hgot
    refine ⟨taken, h1, hle, hanswer, _, hnext, ?_⟩
    rw [Feed.content_rest, Feed.content, List.append_assoc, ← List.append_assoc (data.take _),
      List.take_append_drop]
  · rintro world later ⟨got, hgot, rfl⟩
    obtain ⟨hanswer, hnext⟩ := hw.flush world got hgot
    exact ⟨hanswer, _, hnext, rfl⟩
  · rintro world text script ⟨got, hgot, rfl⟩
    exact ⟨got, hw.remark world text got hgot, rfl⟩

/-- An exchange ends with its result, and the writer has received the content of its script. -/
theorem Push.Ends.run {W : Type v} {writer : Writer W} {received : W → Bytes → Prop}
    (hw : writer.Collects received) {α : Type u} {push : Push α} {result : α} {script : List Feed}
    (h : push.Ends result script) {world : W} {got : Bytes} (hgot : received world got) :
    (push.run writer world).1 = result ∧
      received (push.run writer world).2 (got ++ Feed.content script) := by
  have hall := h []
  rw [List.append_nil] at hall
  obtain ⟨rest, ⟨hresult, rfl⟩, all, hall, htotal⟩ :=
    hall.run (hw.takes (got ++ Feed.content script)) ⟨got, hgot, rfl⟩
  rw [Feed.content, List.append_nil] at htotal
  exact ⟨hresult, htotal ▸ hall⟩

/-- An exchange that performs an empty script changes a world only by adding lines. -/
theorem Push.Performs.run_nil {W : Type v} {writer : Writer W} {p : W → Prop}
    (hremark : ∀ world text, p world → p (writer.remark world text)) {α : Type u}
    {post : α → List Feed → Prop} {push : Push α} {world : W} (h : push.Performs post [])
    (hp : p world) : post (push.run writer world).1 [] ∧ p (push.run writer world).2 := by
  induction push generalizing world with
  | done result => exact ⟨h, hp⟩
  | write bytes next ih =>
    obtain ⟨later, -, hscript, -⟩ := h
    cases hscript
  | flush next ih =>
    obtain ⟨later, hscript, -⟩ := h
    cases hscript
  | remark text next ih => exact ih h (hremark world text hp)

namespace Encoder

variable (encoder : Encoder)

/-- What a close does with a layer of this kind. -/
def closing (state : encoder.State) : Push (Except Fault Unit × encoder.State) :=
  if encoder.finalizes state then encoder.finalize state else .done (.ok (), state)

/-- A relation between states, the script that the layer is still to take, and the one that it
is still to perform below, which every call respects. -/
structure Transcribing (relates : encoder.State → List Feed → List Feed → Prop) : Prop where
  /-- A write takes some of the piece. -/
  piece : ∀ state data later sent, data ≠ [] → relates state (.piece data :: later) sent →
    (encoder.write state data).Performs (fun result rest =>
      ∃ taken, 1 ≤ taken ∧ taken ≤ data.length ∧ result.1 = .ok taken ∧
        relates result.2 (Feed.rest (data.drop taken) later) rest) sent
  /-- A flush succeeds. -/
  flush : ∀ state later sent, relates state (.flush :: later) sent →
    (encoder.flush state).Performs (fun result rest =>
      result.1 = .ok () ∧ relates result.2 later rest) sent
  /-- At the end of its script the layer is finalized, performs all that was left to perform,
  and exposes the layer below. -/
  close : ∀ state sent, relates state [] sent →
    (encoder.closing state).Performs (fun result rest =>
      result.1 = .ok () ∧ encoder.exposes result.2 = true ∧ rest = []) sent

/-- Whatever number of bytes the writer below takes at a time, a layer of this kind answers
every call of a first script, and finalized once has performed a second one below. -/
def Transcribes (state : encoder.State) (script sent : List Feed) : Prop :=
  ∃ relates, encoder.Transcribing relates ∧ relates state script sent

variable {encoder} {state : encoder.State} {data : Bytes} {later sent : List Feed}

/-- A layer that transcribes a piece takes some of it. -/
theorem Transcribes.piece (h : encoder.Transcribes state (.piece data :: later) sent)
    (hd : data ≠ []) :
    (encoder.write state data).Performs (fun result rest =>
      ∃ taken, 1 ≤ taken ∧ taken ≤ data.length ∧ result.1 = .ok taken ∧
        encoder.Transcribes result.2 (Feed.rest (data.drop taken) later) rest) sent := by
  obtain ⟨relates, htrans, hrel⟩ := h
  refine (htrans.piece state data later sent hd hrel).mono ?_
  rintro result rest ⟨taken, h1, hle, hanswer, hnext⟩
  exact ⟨taken, h1, hle, hanswer, relates, htrans, hnext⟩

/-- A layer that transcribes a flush takes it. -/
theorem Transcribes.flush (h : encoder.Transcribes state (.flush :: later) sent) :
    (encoder.flush state).Performs (fun result rest =>
      result.1 = .ok () ∧ encoder.Transcribes result.2 later rest) sent := by
  obtain ⟨relates, htrans, hrel⟩ := h
  refine (htrans.flush state later sent hrel).mono ?_
  rintro result rest ⟨hanswer, hnext⟩
  exact ⟨hanswer, relates, htrans, hnext⟩

/-- A layer at the end of its script is closed. -/
theorem Transcribes.close (h : encoder.Transcribes state [] sent) :
    (encoder.closing state).Performs (fun result rest =>
      result.1 = .ok () ∧ encoder.exposes result.2 = true ∧ rest = []) sent := by
  obtain ⟨relates, htrans, hrel⟩ := h
  exact htrans.close state sent hrel

variable (encoder) in
/-- A layer that takes all of every piece at once performs a script below, and is then exposed. -/
def Writes : encoder.State → List Feed → List Feed → Prop
  | state, [], sent =>
    ∃ after, (encoder.closing state).Ends (.ok (), after) sent ∧ encoder.exposes after = true
  | state, .piece data :: later, sent =>
    ∃ after pieces rest, sent = pieces ++ rest ∧
      (encoder.write state data).Ends (.ok data.length, after) pieces ∧ Writes after later rest
  | state, .flush :: later, sent =>
    ∃ after pieces rest, sent = pieces ++ rest ∧
      (encoder.flush state).Ends (.ok (), after) pieces ∧ Writes after later rest

/-- A layer that takes all of every piece at once transcribes the script. -/
theorem Writes.transcribes {script : List Feed} (h : encoder.Writes state script sent) :
    encoder.Transcribes state script sent := by
  refine ⟨encoder.Writes, ⟨?_, ?_, ?_⟩, h⟩
  · rintro state data later _ hd ⟨after, pieces, rest, rfl, hends, hlater⟩
    refine (hends rest).mono ?_
    rintro result _ ⟨rfl, rfl⟩
    refine ⟨data.length, List.length_pos_iff.mpr hd, Nat.le_refl _, rfl, ?_⟩
    rw [List.drop_length]
    exact hlater
  · rintro state later _ ⟨after, pieces, rest, rfl, hends, hlater⟩
    refine (hends rest).mono ?_
    rintro result _ ⟨rfl, rfl⟩
    exact ⟨rfl, hlater⟩
  · rintro state sent ⟨after, hends, hexposes⟩
    have hall := hends []
    rw [List.append_nil] at hall
    refine hall.mono ?_
    rintro result _ ⟨rfl, rfl⟩
    exact ⟨rfl, hexposes, rfl⟩

variable {W : Type u} {writer : Writer W}

variable (encoder) (writer) in
/-- Call a layer for a piece or a flush. The answer is how many bytes were taken. -/
def perform (state : encoder.State) (world : W) : Feed → Except Fault Nat × encoder.State × W
  | .piece data =>
    let ((answer, state), world) := (encoder.write state data).run writer world
    (answer, state, world)
  | .flush =>
    let ((answer, state), world) := (encoder.flush state).run writer world
    (answer.map fun _ => 0, state, world)

variable (encoder) (writer) in
/-- Call a layer once for each piece and each flush of a script. -/
def performAll : List Feed → encoder.State → W → List (Except Fault Nat) × encoder.State × W
  | [], state, world => ([], state, world)
  | feed :: later, state, world =>
    let (answer, state, world) := encoder.perform writer state world feed
    let (answers, state, world) := performAll later state world
    (answer :: answers, state, world)

/-- A first call and the calls behind it make one run. -/
theorem performAll_cons {state middle last : encoder.State} {world between final : W} {feed : Feed}
    {later : List Feed} {answer : Except Fault Nat} {answers : List (Except Fault Nat)}
    (hfirst : encoder.perform writer state world feed = (answer, middle, between))
    (hlater : encoder.performAll writer later middle between = (answers, last, final)) :
    encoder.performAll writer (feed :: later) state world = (answer :: answers, last, final) := by
  simp only [performAll, hfirst, hlater]

/-- A layer that takes all of every piece at once answers every call, and has a writer receive the
content of what it performs. -/
theorem Writes.performAll {received : W → Bytes → Prop} (hw : writer.Collects received)
    {script : List Feed} (h : encoder.Writes state script sent) {world : W} {got : Bytes}
    (hgot : received world got) :
    ∃ after last, encoder.performAll writer script state world =
        (script.map fun feed => .ok feed.size, after, last) ∧
      ((encoder.closing after).run writer last).1.1 = .ok () ∧
      received ((encoder.closing after).run writer last).2 (got ++ Feed.content sent) := by
  induction script generalizing state sent world got with
  | nil =>
    obtain ⟨after, hends, -⟩ := h
    obtain ⟨hresult, hreceived⟩ := hends.run hw hgot
    exact ⟨state, world, rfl, congrArg Prod.fst hresult, hreceived⟩
  | cons feed later ih =>
    cases feed with
    | piece data =>
      obtain ⟨after, pieces, rest, rfl, hends, hlater⟩ := h
      obtain ⟨hresult, hreceived⟩ := hends.run hw hgot
      obtain ⟨final, last, hall, hclose⟩ := ih hlater hreceived
      rw [Feed.content_append, ← List.append_assoc]
      refine ⟨final, last, ?_, hclose⟩
      simp only [Encoder.performAll, perform, hresult, hall, List.map_cons, Feed.size]
    | flush =>
      obtain ⟨after, pieces, rest, rfl, hends, hlater⟩ := h
      obtain ⟨hresult, hreceived⟩ := hends.run hw hgot
      obtain ⟨final, last, hall, hclose⟩ := ih hlater hreceived
      rw [Feed.content_append, ← List.append_assoc]
      refine ⟨final, last, ?_, hclose⟩
      simp only [Encoder.performAll, perform, hresult, hall, List.map_cons, Feed.size]
      rfl

end Encoder

/-- A sink of which a relation tells the bytes that it has received takes at least one byte per
write, and flushes. -/
structure Sink.Collects {σ : Type} [Sink σ] (received : σ → Bytes → Prop) : Prop where
  /-- Some of what is offered is received. -/
  write : ∀ sink got data, data ≠ [] → received sink got →
    ∃ taken, 1 ≤ taken ∧ taken ≤ data.length ∧ (Sink.write sink data).1 = .ok taken ∧
      received (Sink.write sink data).2 (got ++ data.take taken)
  /-- A flush succeeds. -/
  flush : ∀ sink got, received sink got →
    (Sink.flush sink).1 = .ok () ∧ received (Sink.flush sink).2 got

/-- A growing array has received its bytes. -/
theorem collects_array : Sink.Collects fun (taken : Array UInt8) got => taken.toList = got := by
  refine ⟨?_, fun taken got h => ⟨rfl, h⟩⟩
  rintro taken got data hd rfl
  refine ⟨data.length, List.length_pos_iff.mpr hd, Nat.le_refl _, rfl, ?_⟩
  rw [List.take_length]
  exact Array.toList_appendList

/-- An attached outlet takes of a piece what its sink takes. -/
theorem Outlet.write_collects {σ : Type} [Sink σ] {received : σ → Bytes → Prop}
    (hr : Sink.Collects received) {outlet : Outlet σ} (ha : outlet.attached = true) {got : Bytes}
    (hgot : received outlet.sink got) {data : Bytes} (hd : data ≠ []) :
    ∃ taken, 1 ≤ taken ∧ taken ≤ data.length ∧ (outlet.write data).1 = .ok taken ∧
      (outlet.write data).2.attached = true ∧
      received (outlet.write data).2.sink (got ++ data.take taken) := by
  obtain ⟨taken, h1, hle, hanswer, hnext⟩ := hr.write outlet.sink got data hd hgot
  rw [Outlet.write, if_pos ha]
  generalize Sink.write outlet.sink data = answered at hanswer hnext
  obtain ⟨answer, sink⟩ := answered
  cases hanswer
  exact ⟨taken, h1, hle, rfl, ha, hnext⟩

/-- An attached outlet flushes its sink. -/
theorem Outlet.flush_collects {σ : Type} [Sink σ] {received : σ → Bytes → Prop}
    (hr : Sink.Collects received) {outlet : Outlet σ} (ha : outlet.attached = true) {got : Bytes}
    (hgot : received outlet.sink got) :
    outlet.flush.1 = .ok () ∧ outlet.flush.2.attached = true ∧
      received outlet.flush.2.sink got := by
  obtain ⟨hanswer, hnext⟩ := hr.flush outlet.sink got hgot
  rw [Outlet.flush, if_pos ha]
  exact ⟨hanswer, ha, hnext⟩

namespace EncoderStack

/-- The layers transcribe a script one after another, from the top down. -/
def Relays : {depth : Nat} → EncoderStack depth → List Feed → List Feed → Prop
  | _, .bottom, script, sent => sent = script
  | _, .layer _ encoder state below, script, sent =>
    ∃ between, encoder.Transcribes state script between ∧ Relays below between sent

variable {σ : Type} [Sink σ]

/-- The layers relay a script so that the sink ends up with certain bytes. -/
def Expects (received : σ → Bytes → Prop) (total : Bytes) {depth : Nat}
    (world : EncoderStack depth × Outlet σ) (script : List Feed) : Prop :=
  world.2.attached = true ∧ ∃ sent got, Relays world.1 script sent ∧
    received world.2.sink got ∧ total = got ++ Feed.content sent

variable {received : σ → Bytes → Prop} {total : Bytes}

/-- Without layers an attached outlet collects what its sink does. -/
theorem writer_collects (hr : Sink.Collects received) :
    (writer (σ := σ) 0).Collects fun world got =>
      world.2.attached = true ∧ received world.2.sink got := by
  refine ⟨?_, ?_, fun _ _ _ h => h⟩
  · rintro ⟨⟨⟩, outlet⟩ got data hd ⟨hattached, hgot⟩
    exact outlet.write_collects hr hattached hgot hd
  · rintro ⟨⟨⟩, outlet⟩ got ⟨hattached, hgot⟩
    exact outlet.flush_collects hr hattached hgot

omit [Sink σ] in
/-- A stack expects a script if its top layer transcribes it into one that the rest expects. -/
theorem expects_layer {depth : Nat} {name : String} {encoder : Encoder} {state : encoder.State}
    {below : EncoderStack depth} {outlet : Outlet σ} {script : List Feed} :
    Expects received total (.layer name encoder state below, outlet) script ↔
      ∃ between, encoder.Transcribes state script between ∧
        Expects received total (below, outlet) between := by
  constructor
  · rintro ⟨hattached, sent, got, ⟨between, htrans, hrelays⟩, hgot⟩
    exact ⟨between, htrans, hattached, sent, got, hrelays, hgot⟩
  · rintro ⟨between, htrans, hattached, sent, got, hrelays, hgot⟩
    exact ⟨hattached, sent, got, ⟨between, htrans, hrelays⟩, hgot⟩

omit [Sink σ] in
/-- Without layers an outlet expects a script if its sink is to end up with the content. -/
theorem expects_bottom {outlet : Outlet σ} {script : List Feed} :
    Expects received total (.bottom, outlet) script ↔
      ∃ got, (outlet.attached = true ∧ received outlet.sink got) ∧
        total = got ++ Feed.content script := by
  constructor
  · rintro ⟨hattached, sent, got, rfl, hgot, htotal⟩
    exact ⟨got, ⟨hattached, hgot⟩, htotal⟩
  · rintro ⟨got, ⟨hattached, hgot⟩, htotal⟩
    exact ⟨hattached, script, got, rfl, hgot, htotal⟩

/-- A stack over a sink that takes something of every offer takes what it expects. -/
theorem writer_takes (hr : Sink.Collects received) (depth : Nat) :
    (writer depth).Takes (Expects (σ := σ) received total) := by
  induction depth with
  | zero =>
    have hbottom := (writer_collects hr).takes total
    refine ⟨?_, ?_, fun _ _ _ h => h⟩
    · rintro ⟨⟨⟩, outlet⟩ data later hd h
      obtain ⟨taken, h1, hle, hanswer, hnext⟩ :=
        hbottom.piece (.bottom, outlet) data later hd (expects_bottom.mp h)
      exact ⟨taken, h1, hle, hanswer, expects_bottom.mpr hnext⟩
    · rintro ⟨⟨⟩, outlet⟩ later h
      obtain ⟨hanswer, hnext⟩ := hbottom.flush (.bottom, outlet) later (expects_bottom.mp h)
      exact ⟨hanswer, expects_bottom.mpr hnext⟩
  | succ depth ih =>
    refine ⟨?_, ?_, fun _ _ _ h => h⟩
    · rintro ⟨⟨⟩, outlet⟩ data later hd h
      obtain ⟨between, htrans, hbelow⟩ := expects_layer.mp h
      obtain ⟨rest, ⟨taken, h1, hle, hanswer, hnext⟩, hleft⟩ := (htrans.piece hd).run ih hbelow
      exact ⟨taken, h1, hle, hanswer, expects_layer.mpr ⟨rest, hnext, hleft⟩⟩
    · rintro ⟨⟨⟩, outlet⟩ later h
      obtain ⟨between, htrans, hbelow⟩ := expects_layer.mp h
      obtain ⟨rest, ⟨hanswer, hnext⟩, hleft⟩ := htrans.flush.run ih hbelow
      exact ⟨hanswer, expects_layer.mpr ⟨rest, hnext, hleft⟩⟩

/-- A close runs the closing of the top layer over the layers below. -/
theorem meet_eq {depth : Nat} (encoder : Encoder) (state : encoder.State)
    (below : EncoderStack depth) (outlet : Outlet σ) :
    Stack.meet encoder state below outlet =
      (encoder.closing state).run (writer depth) (below, outlet) := by
  have hkind : LayerKind.finalizes encoder state = encoder.finalizes state := rfl
  rw [Stack.meet, Encoder.closing, hkind]
  cases encoder.finalizes state <;> rfl

/-- A stack that has taken all that it expects is closed without an error, and its sink ends up
with the bytes. -/
theorem finalizeAlong_expects (hr : Sink.Collects received) {depth : Nat}
    {stack : EncoderStack depth} {outlet : Outlet σ} {entries : List (String × Nat)}
    (hlen : entries.length = depth) (h : Expects received total (stack, outlet) []) :
    (Stack.finalizeAlong entries stack outlet).1 = .ok () ∧
      received (Stack.finalizeAlong entries stack outlet).2.2.sink total := by
  induction depth generalizing entries outlet with
  | zero =>
    cases stack
    obtain rfl := List.length_eq_zero_iff.mp hlen
    obtain ⟨-, sent, got, rfl, hgot, rfl⟩ := h
    rw [Feed.content, List.append_nil]
    exact ⟨rfl, hgot⟩
  | succ depth ih =>
    obtain _ | @⟨_, name, encoder, state, below⟩ := stack
    obtain _ | ⟨⟨entry, index⟩, entries⟩ := entries
    · cases hlen
    obtain ⟨between, htrans, hbelow⟩ := expects_layer.mp h
    obtain ⟨rest, ⟨hanswer, hexposes, rfl⟩, hleft⟩ :=
      htrans.close.run (writer_takes hr depth) hbelow
    rw [Stack.finalizeAlong_layer, meet_eq]
    generalize (encoder.closing state).run (writer depth) (below, outlet) = met at *
    obtain ⟨⟨answer, after⟩, rest, left⟩ := met
    dsimp only at hanswer hexposes
    subst hanswer
    have hrest := ih (Nat.succ.inj hlen) hleft
    have he : LayerKind.exposes encoder after = true := hexposes
    simp only [if_pos he]
    exact hrest

end EncoderStack

namespace EncoderRegistry

/-- Under a name the registry has a factory that makes one kind of layer in one state, without
a call to the layer below. -/
def Gives (registry : EncoderRegistry) (name : String) (encoder : Encoder)
    (first : encoder.State) : Prop :=
  ∃ factory, registry.get? name = some factory ∧
    factory.Performs (fun made rest => made = .built encoder first ∧ rest = []) []

/-- Layers of the names, the first of them lowest, transcribe a script one after another. -/
def Transcribes (registry : EncoderRegistry) : List String → List Feed → List Feed → Prop
  | [], script, sent => sent = script
  | name :: names, script, sent =>
    ∃ between encoder first, registry.Transcribes names script between ∧
      registry.Gives name encoder first ∧ encoder.Transcribes first between sent

/-- The layers of some names over those of others transcribe what comes out of the upper. -/
theorem transcribes_append {registry : EncoderRegistry} {lower upper : List String}
    {script between sent : List Feed} (hu : registry.Transcribes upper script between)
    (hl : registry.Transcribes lower between sent) :
    registry.Transcribes (lower ++ upper) script sent := by
  induction lower generalizing sent with
  | nil =>
    rw [Transcribes] at hl
    rw [hl]
    exact hu
  | cons name lower ih =>
    obtain ⟨inner, encoder, first, hinner, hgives, htrans⟩ := hl
    exact ⟨inner, encoder, first, ih hinner, hgives, htrans⟩

variable {σ : Type} [Sink σ]

/-- A factory that makes no call to the layer below leaves stack and sink as they were. -/
theorem construct_quiet {factory : EncoderFactory}
    {post : Construction Encoder.State → List Feed → Prop} (h : factory.Performs post [])
    {depth : Nat} (stack : EncoderStack depth) (outlet : Outlet σ) :
    post (Medium.construct factory stack outlet).1 [] ∧
      (Medium.construct factory stack outlet).2.1 = stack ∧
      (Medium.construct factory stack outlet).2.2.sink = outlet.sink := by
  have hremark : ∀ (world : EncoderStack depth × Outlet σ) text,
      world.1 = stack ∧ world.2.sink = outlet.sink →
        ((EncoderStack.writer depth).remark world text).1 = stack ∧
          ((EncoderStack.writer depth).remark world text).2.sink = outlet.sink := by
    intro world text hworld
    cases depth <;> exact hworld
  exact h.run_nil hremark ⟨rfl, rfl⟩

/-- A name for which the registry gives a layer puts that on the stack. Nothing is written
meanwhile. -/
theorem Gives.realize {registry : EncoderRegistry} {name : String} {encoder : Encoder}
    {first : encoder.State} (h : registry.Gives name encoder first) (names : List String)
    {depth : Nat} (stack : EncoderStack depth) (list : List String) (outlet : Outlet σ) :
    ∃ after : Outlet σ, after.sink = outlet.sink ∧
      Chain.realize registry (name :: names) (⟨depth, stack, list⟩ : EncoderChain) outlet =
        Chain.realize registry names
          ⟨depth + 1, .layer name encoder first stack, list ++ [name]⟩ after := by
  obtain ⟨factory, hfactory, hmakes⟩ := h
  obtain ⟨⟨hmade, -⟩, hstack, hsink⟩ := construct_quiet hmakes stack outlet
  simp only [Chain.realize, Registry.lookup, hfactory]
  generalize Medium.construct factory stack outlet = made at hmade hstack hsink
  obtain ⟨construction, below, after⟩ := made
  dsimp only at hmade hstack hsink
  subst hmade hstack
  exact ⟨after, hsink, rfl⟩

/-- Realizing names puts layers on a stack that transcribe for it. Nothing is written meanwhile. -/
theorem realize_relays {registry : EncoderRegistry} {names : List String}
    {script between sent : List Feed} {chain : EncoderChain} {outlet : Outlet σ}
    (ht : registry.Transcribes names script between)
    (hs : EncoderStack.Relays chain.stack between sent) (hn : chain.names.length = chain.depth) :
    ∃ result, (Chain.realize registry names chain outlet).1 = .built result ∧
      EncoderStack.Relays result.stack script sent ∧ result.names.length = result.depth ∧
      (Chain.realize registry names chain outlet).2.sink = outlet.sink := by
  induction names generalizing chain between outlet with
  | nil =>
    rw [Transcribes] at ht
    subst ht
    exact ⟨chain, rfl, hs, hn, rfl⟩
  | cons name names ih =>
    obtain ⟨depth, stack, list⟩ := chain
    obtain ⟨inner, encoder, first, hinner, hgives, htrans⟩ := ht
    obtain ⟨after, hsink, hstep⟩ := hgives.realize names stack list outlet
    rw [hstep, ← hsink]
    refine ih hinner ⟨between, htrans, hs⟩ ?_
    rw [List.length_append, List.length_singleton]
    exact congrArg (· + 1) hn

end EncoderRegistry

namespace Compressor

variable {σ : Type} [Sink σ]

/-- Initializing leaves a compressor with a chain alone. -/
theorem init_of_chain {compressor : Compressor σ} {chain : EncoderChain}
    (h : compressor.guard = ⟨.built, none, .built chain⟩) :
    compressor.init = (.done (), compressor) := by
  obtain ⟨order, registry, guard, outlet⟩ := compressor
  cases h
  rfl

/-- If the names of an order are realized, a new compressor has the chain once it is initialized,
over an attached outlet. -/
theorem init_create {sink : σ} {registry : EncoderRegistry} {order : List String}
    {chain : EncoderChain} (h : (Chain.realize registry (order.filter (· != ""))
      (⟨0, .bottom, []⟩ : EncoderChain) ({ sink } : Outlet σ)).1 = .built chain) :
    (create sink registry order).init.1 = .done () ∧
      (create sink registry order).init.2.guard = ⟨.built, none, .built chain⟩ ∧
      (create sink registry order).init.2.outlet.attached = true ∧
      (create sink registry order).init.2.outlet.sink =
        (Chain.realize registry (order.filter (· != "")) (⟨0, .bottom, []⟩ : EncoderChain)
          ({ sink } : Outlet σ)).2.sink := by
  simp only [Compressor.init, create, InitGuard.start, InitGuard.initWith, InitGuard.settled,
    construct, Chain.build]
  generalize Chain.realize registry (order.filter (· != "")) (⟨0, .bottom, []⟩ : EncoderChain)
    ({ sink } : Outlet σ) = realized at h
  obtain ⟨building, outlet⟩ := realized
  dsimp only at h
  subst h
  exact ⟨rfl, rfl, rfl, rfl⟩

variable {received : σ → Bytes → Prop} {total : Bytes}

/-- The chain stands and expects a script. -/
def Ready (received : σ → Bytes → Prop) (total : Bytes) (compressor : Compressor σ)
    (script : List Feed) : Prop :=
  ∃ chain : EncoderChain, compressor.guard = ⟨.built, none, .built chain⟩ ∧
    chain.names.length = chain.depth ∧
    EncoderStack.Expects received total (chain.stack, compressor.outlet) script

variable {compressor : Compressor σ} {data : Bytes} {later script : List Feed}

/-- Initializing leaves a compressor that is ready alone. -/
theorem Ready.init (h : compressor.Ready received total script) :
    compressor.init = (.done (), compressor) := by
  obtain ⟨chain, hguard, -⟩ := h
  exact init_of_chain hguard

/-- A write takes some of the piece. -/
theorem Ready.write (hr : Sink.Collects received)
    (h : compressor.Ready received total (.piece data :: later)) (hd : data ≠ []) :
    ∃ taken, 1 ≤ taken ∧ taken ≤ data.length ∧ (compressor.write data).1 = .done taken ∧
      (compressor.write data).2.Ready received total (Feed.rest (data.drop taken) later) := by
  have hinit := h.init
  obtain ⟨chain, hguard, hlen, hexpects⟩ := h
  obtain ⟨taken, h1, hle, hanswer, hnext⟩ :=
    (EncoderStack.writer_takes hr chain.depth).piece _ data later hd hexpects
  have hchain : (EncoderChain.write data chain compressor.outlet).1 = .ok taken := hanswer
  simp only [write_eq, hinit, writeBuilt_of_built (congrArg InitGuard.state hguard), hchain]
  exact ⟨taken, h1, hle, rfl, (EncoderChain.write data chain compressor.outlet).2.1,
    by rw [hguard], hlen, hnext⟩

/-- Writing all of a piece succeeds. -/
theorem Ready.writeAllFor (hr : Sink.Collects received) {attempts : Nat}
    (h : compressor.Ready received total (Feed.rest data later)) (hle : data.length ≤ attempts) :
    (Compressor.writeAllFor attempts compressor data).1 = .done () ∧
      (Compressor.writeAllFor attempts compressor data).2.Ready received total later := by
  induction attempts generalizing compressor data with
  | zero =>
    obtain rfl := List.length_eq_zero_iff.mp (Nat.le_zero.mp hle)
    exact ⟨rfl, h⟩
  | succ attempts ih =>
    cases data with
    | nil => exact ⟨rfl, h⟩
    | cons byte bytes =>
      obtain ⟨taken, h1, -, hanswer, hnext⟩ := h.write hr (List.cons_ne_nil _ _)
      obtain ⟨count, rfl⟩ := Nat.exists_eq_succ_of_ne_zero (Nat.one_le_iff_ne_zero.mp h1)
      simp only [Compressor.writeAllFor]
      generalize compressor.write (byte :: bytes) = answered at hanswer hnext
      obtain ⟨answer, after⟩ := answered
      dsimp only at hanswer
      subst hanswer
      refine ih hnext ?_
      rw [List.length_drop]
      rw [List.length_cons] at hle ⊢
      omega

/-- A flush succeeds. -/
theorem Ready.flush (hr : Sink.Collects received)
    (h : compressor.Ready received total (.flush :: later)) :
    compressor.flush.1 = .ok () ∧ compressor.flush.2.Ready received total later := by
  obtain ⟨chain, hguard, hlen, hexpects⟩ := h
  obtain ⟨hanswer, hnext⟩ := (EncoderStack.writer_takes hr chain.depth).flush _ later hexpects
  have hbuilt : compressor.guard.isBuilt = true := by rw [hguard]; rfl
  rw [flush_of_built hbuilt (congrArg InitGuard.state hguard)]
  exact ⟨hanswer, (EncoderChain.flush chain compressor.outlet).2.1, by rw [hguard], hlen, hnext⟩

/-- At the end of its script a compressor is closed without an error, and its sink holds the
bytes. -/
theorem Ready.close (hr : Sink.Collects received) (h : compressor.Ready received total []) :
    compressor.close.1 = .done () ∧ received compressor.close.2.outlet.sink total := by
  obtain ⟨chain, hguard, hlen, hexpects⟩ := h
  have hentries : chain.names.zipIdx.reverse.length = chain.depth := by
    rw [List.length_reverse, List.length_zipIdx, hlen]
  obtain ⟨hanswer, hsink⟩ := EncoderStack.finalizeAlong_expects hr hentries hexpects
  have hunbuilt : compressor.guard.isUnbuilt = false := by rw [hguard]; rfl
  have hstate := congrArg InitGuard.state hguard
  rw [close_of_settled hunbuilt]
  refine ⟨?_, finish_sink hstate ▸ hsink⟩
  rw [finish_of_built hstate]
  exact congrArg Outcome.ofExcept hanswer

/-- What a caller's piece or flush comes to. -/
def perform (patience : Nat) (compressor : Compressor σ) : Feed → Outcome Fault Unit × Compressor σ
  | .piece data => compressor.writeAll patience data
  | .flush => (.ofExcept compressor.flush.1, compressor.flush.2)

/-- What the pieces and flushes of a script come to, one after another. -/
def performAll (patience : Nat) (compressor : Compressor σ) :
    List Feed → List (Outcome Fault Unit) × Compressor σ
  | [] => ([], compressor)
  | feed :: later =>
    let (answer, compressor) := compressor.perform patience feed
    let (answers, compressor) := compressor.performAll patience later
    (answer :: answers, compressor)

/-- Every call of a script returns, so does the close after it, and the sink then holds certain
bytes. -/
def Compresses (received : σ → Bytes → Prop) (patience : Nat) (compressor : Compressor σ)
    (script : List Feed) (total : Bytes) : Prop :=
  (∀ answer ∈ (compressor.performAll patience script).1, answer = .done ()) ∧
    (compressor.performAll patience script).2.close.1 = .done () ∧
    received (compressor.performAll patience script).2.close.2.outlet.sink total

/-- A call that returns is followed by the calls of the rest of the script. -/
theorem Compresses.cons {patience : Nat} {feed : Feed}
    (hanswer : (compressor.perform patience feed).1 = .done ())
    (h : (compressor.perform patience feed).2.Compresses received patience later total) :
    compressor.Compresses received patience (feed :: later) total := by
  obtain ⟨hall, hclose⟩ := h
  exact ⟨List.forall_mem_cons.mpr ⟨hanswer, hall⟩, hclose⟩

/-- A new compressor whose layers transcribe a script expects it once it is initialized. -/
theorem init_ready {registry : EncoderRegistry} {order : List String} {sent : List Feed} {sink : σ}
    (ht : registry.Transcribes (order.filter (· != "")) script sent) (hsink : received sink []) :
    (create sink registry order).init.1 = .done () ∧
      (create sink registry order).init.2.Ready received (Feed.content sent) script := by
  obtain ⟨chain, hbuilt, hrelays, hlen, hout⟩ :=
    @EncoderRegistry.realize_relays σ _ registry _ script sent sent ⟨0, .bottom, []⟩ { sink }
      ht rfl rfl
  obtain ⟨hinit, hguard, hattached, hsame⟩ := init_create hbuilt
  exact ⟨hinit, chain, hguard, hlen, hattached, sent, [], hrelays, hsame ▸ hout ▸ hsink, rfl⟩

end Compressor

end ContentCoding
