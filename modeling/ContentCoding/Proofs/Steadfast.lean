import ContentCoding.Proofs.RoundTrip
import ContentCoding.Scripted.Endpoint

/-!
# Layers that lose nothing when a write fails

A writer below may fail at any moment, take a part of what it is offered or nothing,
and go on as if nothing had happened. A layer is steadfast if all that it has taken
can be recovered from what the writer below has taken, once it is finalized without an
error: an answer tells how much was taken, and an error that nothing was. It may then
be called again, with the same bytes or others.

A compressor over steadfast layers answers for its sink. Layers that forward, and
layers that keep what is not taken pending, are steadfast.
-/

namespace ContentCoding

universe u v

/-- Whatever the exchange is answered, what it ends with satisfies a condition, together with the
bytes that the writer below has taken by then. Of an offer it may take any part, and it may fail. -/
def Push.Survives {α : Type u} (post : α → Bytes → Prop) : Push α → (sent : Bytes) → Prop
  | .done result, sent => post result sent
  | .write bytes next, sent =>
    (∀ taken, taken ≤ bytes.length →
      (next (.ok taken)).Survives post (sent ++ bytes.take taken)) ∧
    ∀ fault, (next (.error fault)).Survives post sent
  | .flush next, sent => ∀ answer, (next answer).Survives post sent
  | .remark _ next, sent => next.Survives post sent

namespace Push.Survives

variable {α : Type u} {β : Type v} {sent : Bytes}

/-- A weaker condition is satisfied as well. -/
theorem mono {post other : α → Bytes → Prop} (hpost : ∀ result sent,
    post result sent → other result sent) {push : Push α} (h : push.Survives post sent) :
    push.Survives other sent := by
  induction push generalizing sent with
  | done result => exact hpost result sent h
  | write bytes next ih =>
    obtain ⟨htaken, hfault⟩ := h
    exact ⟨fun taken hle => ih _ (htaken taken hle), fun fault => ih _ (hfault fault)⟩
  | flush next ih => exact fun answer => ih answer (h answer)
  | remark text next ih => exact ih h

/-- One exchange after another survives if the second does after the first. -/
theorem bind {post : β → Bytes → Prop} {first : Push α} {second : α → Push β}
    (h : first.Survives (fun result sent => (second result).Survives post sent) sent) :
    (first.bind second).Survives post sent := by
  induction first generalizing sent with
  | done result => exact h
  | write bytes next ih =>
    obtain ⟨htaken, hfault⟩ := h
    exact ⟨fun taken hle => ih _ (htaken taken hle), fun fault => ih _ (hfault fault)⟩
  | flush next ih => exact fun answer => ih answer (h answer)
  | remark text next ih => exact ih h

/-- Changing the result of an exchange changes nothing else. -/
theorem map {post : β → Bytes → Prop} {push : Push α} {f : α → β}
    (h : push.Survives (fun result sent => post (f result) sent) sent) :
    (push.map f).Survives post sent := bind h

end Push.Survives

/-- What an answer to an offer says was taken has been taken, and is no more than was offered.
After an error nothing has. -/
def Except.Accounts (answer : Except Fault Nat) (data sent : Bytes) (holds : Bytes → Prop) : Prop :=
  match answer with
  | .ok taken => taken ≤ data.length ∧ holds (sent ++ data.take taken)
  | .error _ => holds sent

/-- A writer of which a relation tells the bytes that it has taken says truly how many it takes. -/
structure Writer.Accounts {W : Type v} (writer : Writer W) (holds : W → Bytes → Prop) : Prop where
  /-- What an answer says has been taken. -/
  write : ∀ world sent data, holds world sent →
    Except.Accounts (writer.write world data).1 data sent (holds (writer.write world data).2)
  /-- A flush takes nothing. -/
  flush : ∀ world sent, holds world sent → holds (writer.flush world).2 sent
  /-- Nor does a line. -/
  remark : ∀ world text sent, holds world sent → holds (writer.remark world text) sent

/-- An exchange that survives does so with a writer that accounts for what it takes. -/
theorem Push.Survives.run {W : Type v} {writer : Writer W} {holds : W → Bytes → Prop}
    (hw : writer.Accounts holds) {α : Type u} {post : α → Bytes → Prop} {push : Push α}
    {sent : Bytes} {world : W} (h : push.Survives post sent) (hworld : holds world sent) :
    ∃ total, post (push.run writer world).1 total ∧ holds (push.run writer world).2 total := by
  induction push generalizing sent world with
  | done result => exact ⟨sent, h, hworld⟩
  | write bytes next ih =>
    obtain ⟨htaken, hfault⟩ := h
    have haccounts := hw.write world sent bytes hworld
    rw [Push.run]
    generalize writer.write world bytes = answered at haccounts
    obtain ⟨answer, after⟩ := answered
    cases answer with
    | ok taken => exact ih _ (htaken taken haccounts.1) haccounts.2
    | error fault => exact ih _ (hfault fault) haccounts
  | flush next ih => exact ih _ (h _) (hw.flush world sent hworld)
  | remark text next ih => exact ih h (hw.remark world text sent hworld)

namespace Encoder

variable (encoder : Encoder)

/-- A relation between states, the bytes that the layer has taken, and those that the writer below
has taken from it, which every call respects. -/
structure Keeping (keeps : encoder.State → (taken sent : Bytes) → Prop)
    (whole : (sent taken : Bytes) → Prop) : Prop where
  /-- A write takes what it says. -/
  write : ∀ state taken sent data, keeps state taken sent →
    (encoder.write state data).Survives (fun result sent =>
      Except.Accounts result.1 data taken fun taken => keeps result.2 taken sent) sent
  /-- A flush takes nothing. -/
  flush : ∀ state taken sent, keeps state taken sent →
    (encoder.flush state).Survives (fun result sent => keeps result.2 taken sent) sent
  /-- If the layer is finalized without an error, what was taken below is a whole stream of what the
  layer has taken, and the layer below is exposed. -/
  close : ∀ state taken sent, keeps state taken sent →
    (encoder.closing state).Survives (fun result sent =>
      result.1 = .ok () → encoder.exposes result.2 = true ∧ whole sent taken) sent

/-- Whatever happens below, a layer of this kind keeps all that it has taken, so that finalized
without an error it has written a whole stream of it. -/
def Keeps (whole : (sent taken : Bytes) → Prop) (state : encoder.State) (taken sent : Bytes) :
    Prop :=
  ∃ keeps, encoder.Keeping keeps whole ∧ keeps state taken sent

variable {encoder} {whole : Bytes → Bytes → Prop} {state : encoder.State} {taken sent : Bytes}

/-- A layer that keeps what it has taken takes what it says. -/
theorem Keeps.write (h : encoder.Keeps whole state taken sent) (data : Bytes) :
    (encoder.write state data).Survives (fun result sent =>
      Except.Accounts result.1 data taken fun taken => encoder.Keeps whole result.2 taken sent)
      sent := by
  obtain ⟨keeps, hkeeping, hstate⟩ := h
  refine (hkeeping.write state taken sent data hstate).mono ?_
  rintro ⟨answer, after⟩ sent haccounts
  cases answer with
  | ok count => exact ⟨haccounts.1, keeps, hkeeping, haccounts.2⟩
  | error fault => exact ⟨keeps, hkeeping, haccounts⟩

/-- A flush takes nothing. -/
theorem Keeps.flush (h : encoder.Keeps whole state taken sent) :
    (encoder.flush state).Survives (fun result sent => encoder.Keeps whole result.2 taken sent)
      sent := by
  obtain ⟨keeps, hkeeping, hstate⟩ := h
  exact (hkeeping.flush state taken sent hstate).mono fun result sent hnext =>
    ⟨keeps, hkeeping, hnext⟩

/-- A layer that is finalized without an error has written a whole stream. -/
theorem Keeps.close (h : encoder.Keeps whole state taken sent) :
    (encoder.closing state).Survives (fun result sent =>
      result.1 = .ok () → encoder.exposes result.2 = true ∧ whole sent taken) sent := by
  obtain ⟨keeps, hkeeping, hstate⟩ := h
  exact hkeeping.close state taken sent hstate

end Encoder

/-- Layers of given names recover data if enough reads are allowed to each of their calls. -/
def EventuallyRecovers (decoders : Nat → DecoderRegistry) (names : List String)
    (encoded data : Bytes) : Prop :=
  ∃ enough, ∀ patience, enough ≤ patience → (decoders patience).Recovers names encoded data

/-- No layers leave the data as they are. -/
theorem eventuallyRecovers_nil {decoders : Nat → DecoderRegistry} (data : Bytes) :
    EventuallyRecovers decoders [] data data := ⟨0, fun _ _ => rfl⟩

/-- Layers recover on other layers what those recover. -/
theorem EventuallyRecovers.append {decoders : Nat → DecoderRegistry} {outer inner : List String}
    {encoded between data : Bytes} (houter : EventuallyRecovers decoders outer encoded between)
    (hinner : EventuallyRecovers decoders inner between data) :
    EventuallyRecovers decoders (outer ++ inner) encoded data := by
  obtain ⟨first, hfirst⟩ := houter
  obtain ⟨second, hsecond⟩ := hinner
  refine ⟨max first second, fun patience hpatience => ?_⟩
  obtain ⟨hle, hle'⟩ := Nat.max_le.mp hpatience
  exact DecoderRegistry.recovers_append (hfirst patience hle) (hsecond patience hle')

/-- Under a name two registries have factories of layers that belong together. The encoding factory
makes a layer without a call to the one below, and the layer is steadfast: what it has taken the
layers of the decoding factory recover, if enough reads are allowed to each of their calls. -/
def SteadfastAt (encoders : EncoderRegistry) (decoders : Nat → DecoderRegistry) (name : String) :
    Prop :=
  ∃ (encoder : Encoder) (first : encoder.State), encoders.Gives name encoder first ∧
    encoder.Keeps (EventuallyRecovers decoders [name]) first [] []

/-- A sink of which a relation tells the bytes that it has received says truly how many it takes. -/
structure Sink.Accounts {σ : Type} [Sink σ] (received : σ → Bytes → Prop) : Prop where
  /-- What an answer says has been received. -/
  write : ∀ sink got data, received sink got →
    Except.Accounts (Sink.write sink data).1 data got (received (Sink.write sink data).2)
  /-- A flush adds nothing. -/
  flush : ∀ sink got, received sink got → received (Sink.flush sink).2 got

namespace EncoderStack

variable (decoders : Nat → DecoderRegistry)

/-- Each layer keeps what it has taken, the last one for the bytes that the outlet has taken. -/
def Bears : {depth : Nat} → EncoderStack depth → (taken sent : Bytes) → Prop
  | _, .bottom, taken, sent => sent = taken
  | _, .layer name encoder state below, taken, sent =>
    ∃ between, encoder.Keeps (EventuallyRecovers decoders [name]) state taken between ∧
      Bears below between sent

variable {σ : Type} [Sink σ]

/-- Layers of given names keep what they have taken, and the outlet is attached to a sink with the
bytes. -/
def Vouches (received : σ → Bytes → Prop) (names : List String) {depth : Nat}
    (world : EncoderStack depth × Outlet σ) (taken : Bytes) : Prop :=
  world.2.attached = true ∧ world.1.names = names ∧
    ∃ sent, Bears decoders world.1 taken sent ∧ received world.2.sink sent

variable {decoders} {received : σ → Bytes → Prop} {names : List String}

omit [Sink σ] in
/-- A stack answers for what its top layer has taken if the rest does for what that has written. -/
theorem vouches_layer {depth : Nat} {name : String} {encoder : Encoder} {state : encoder.State}
    {below : EncoderStack depth} {outlet : Outlet σ} {taken : Bytes} :
    Vouches decoders received names (.layer name encoder state below, outlet) taken ↔
      ∃ lower between, names = lower ++ [name] ∧
        encoder.Keeps (EventuallyRecovers decoders [name]) state taken between ∧
        Vouches decoders received lower (below, outlet) between := by
  constructor
  · rintro ⟨hattached, rfl, sent, ⟨between, hkeeps, hbears⟩, hgot⟩
    exact ⟨below.names, between, rfl, hkeeps, hattached, rfl, sent, hbears, hgot⟩
  · rintro ⟨lower, between, rfl, hkeeps, hattached, rfl, sent, hbears, hgot⟩
    exact ⟨hattached, rfl, sent, ⟨between, hkeeps, hbears⟩, hgot⟩

/-- A stack over a sink that accounts for what it takes does so as well. -/
theorem writer_accounts (hr : Sink.Accounts received) (depth : Nat) :
    (writer depth).Accounts (Vouches (σ := σ) decoders received names) := by
  induction depth generalizing names with
  | zero =>
    refine ⟨?_, ?_, fun _ _ _ h => h⟩
    · rintro ⟨⟨⟩, outlet⟩ taken data ⟨hattached, hnames, sent, rfl, hgot⟩
      have haccounts := hr.write outlet.sink sent data hgot
      simp only [writer, Outlet.write, if_pos hattached]
      generalize Sink.write outlet.sink data = answered at haccounts
      obtain ⟨answer, sink⟩ := answered
      cases answer with
      | ok count => exact ⟨haccounts.1, hattached, hnames, _, rfl, haccounts.2⟩
      | error fault => exact ⟨hattached, hnames, _, rfl, haccounts⟩
    · rintro ⟨⟨⟩, outlet⟩ taken ⟨hattached, hnames, sent, rfl, hgot⟩
      have hflush := hr.flush outlet.sink sent hgot
      simp only [writer, Outlet.flush, if_pos hattached]
      exact ⟨hattached, hnames, _, rfl, hflush⟩
  | succ depth ih =>
    refine ⟨?_, ?_, fun _ _ _ h => h⟩
    · rintro ⟨⟨⟩, outlet⟩ taken data h
      rename_i name encoder state below
      obtain ⟨lower, between, rfl, hkeeps, hbelow⟩ := vouches_layer.mp h
      obtain ⟨total, haccounts, hleft⟩ := (hkeeps.write data).run ih hbelow
      simp only [writer]
      generalize (encoder.write state data).run (writer depth) (below, outlet) = ran
        at haccounts hleft
      obtain ⟨⟨answer, after⟩, rest, left⟩ := ran
      cases answer with
      | ok count =>
        exact ⟨haccounts.1, vouches_layer.mpr ⟨lower, total, rfl, haccounts.2, hleft⟩⟩
      | error fault => exact vouches_layer.mpr ⟨lower, total, rfl, haccounts, hleft⟩
    · rintro ⟨⟨⟩, outlet⟩ taken h
      obtain ⟨lower, between, rfl, hkeeps, hbelow⟩ := vouches_layer.mp h
      obtain ⟨total, hnext, hleft⟩ := hkeeps.flush.run ih hbelow
      exact vouches_layer.mpr ⟨lower, total, rfl, hnext, hleft⟩

/-- A stack that is closed without an error has written what decodes to all that it has taken. -/
theorem finalizeAlong_vouches (hr : Sink.Accounts received) {depth : Nat}
    {stack : EncoderStack depth} {outlet : Outlet σ} {entries : List (String × Nat)} {taken : Bytes}
    (hlen : entries.length = depth) (h : Vouches decoders received names (stack, outlet) taken)
    (hclosed : (Stack.finalizeAlong entries stack outlet).1 = .ok ()) :
    ∃ bytes, received (Stack.finalizeAlong entries stack outlet).2.2.sink bytes ∧
      EventuallyRecovers decoders names bytes taken := by
  induction depth generalizing entries outlet taken names with
  | zero =>
    cases stack
    obtain rfl := List.length_eq_zero_iff.mp hlen
    obtain ⟨-, rfl, sent, rfl, hgot⟩ := h
    exact ⟨sent, hgot, eventuallyRecovers_nil sent⟩
  | succ depth ih =>
    obtain _ | @⟨_, name, encoder, state, below⟩ := stack
    obtain _ | ⟨⟨entry, index⟩, entries⟩ := entries
    · cases hlen
    obtain ⟨lower, between, rfl, hkeeps, hbelow⟩ := vouches_layer.mp h
    obtain ⟨total, hwhole, hleft⟩ := hkeeps.close.run (writer_accounts hr depth) hbelow
    rw [Stack.finalizeAlong_layer, meet_eq] at hclosed ⊢
    generalize (encoder.closing state).run (writer depth) (below, outlet) = met at *
    obtain ⟨⟨answer, after⟩, rest, left⟩ := met
    cases answer with
    | error fault => cases hclosed
    | ok _ =>
      obtain ⟨hexposes, hrecovers⟩ := hwhole rfl
      have he : LayerKind.exposes encoder after = true := hexposes
      simp only [if_pos he] at hclosed ⊢
      obtain ⟨bytes, hgot, hlower⟩ := ih (Nat.succ.inj hlen) hleft hclosed
      exact ⟨bytes, hgot, hlower.append hrecovers⟩

end EncoderStack

namespace EncoderRegistry

variable {σ : Type} [Sink σ] {encoders : EncoderRegistry} {decoders : Nat → DecoderRegistry}

/-- Realizing names puts steadfast layers on a stack of such layers. Nothing is written meanwhile,
and nothing has been taken. -/
theorem realize_bears {names : List String}
    (hn : ∀ name ∈ names, SteadfastAt encoders decoders name) {chain : EncoderChain}
    {outlet : Outlet σ} (hs : EncoderStack.Bears decoders chain.stack [] [])
    (hl : chain.names = chain.stack.names) :
    ∃ result, (Chain.realize encoders names chain outlet).1 = .built result ∧
      EncoderStack.Bears decoders result.stack [] [] ∧ result.names = result.stack.names ∧
      result.names = chain.names ++ names ∧
      (Chain.realize encoders names chain outlet).2.sink = outlet.sink := by
  induction names generalizing chain outlet with
  | nil => exact ⟨chain, rfl, hs, hl, (List.append_nil _).symm, rfl⟩
  | cons name names ih =>
    obtain ⟨depth, stack, list⟩ := chain
    obtain ⟨⟨encoder, first, hgives, hkeeps⟩, hnames⟩ := List.forall_mem_cons.mp hn
    obtain rfl : list = stack.names := hl
    obtain ⟨after, hsink, hstep⟩ := hgives.realize names stack stack.names outlet
    have hlist : stack.names ++ name :: names = stack.names ++ [name] ++ names := by
      rw [List.append_assoc, List.singleton_append]
    rw [hstep, ← hsink, hlist]
    have hbears : EncoderStack.Bears decoders (.layer name encoder first stack) [] [] :=
      ⟨[], hkeeps, hs⟩
    exact @ih hnames ⟨depth + 1, .layer name encoder first stack, stack.names ++ [name]⟩ after
      hbears rfl

end EncoderRegistry

namespace Compressor

variable {σ : Type} [Sink σ]

/-- Make one call for a piece or a flush. A write that returns has taken the first bytes of the
piece, as many as it says. -/
def attempt (compressor : Compressor σ) : Feed → Bytes × Compressor σ
  | .piece data =>
    match compressor.write data with
    | (.done count, compressor) => (data.take count, compressor)
    | (_, compressor) => ([], compressor)
  | .flush => ([], compressor.flush.2)

/-- Make one call for each piece and each flush, whatever comes of it, and collect what the writes
have taken. -/
def attemptAll : List Feed → Compressor σ → Bytes × Compressor σ
  | [], compressor => ([], compressor)
  | feed :: later, compressor =>
    let (taken, compressor) := compressor.attempt feed
    let (more, compressor) := attemptAll later compressor
    (taken ++ more, compressor)

variable {decoders : Nat → DecoderRegistry} {received : σ → Bytes → Prop} {names : List String}

/-- The chain stands, and answers for what has been taken. -/
def Stands (decoders : Nat → DecoderRegistry) (received : σ → Bytes → Prop) (names : List String)
    (compressor : Compressor σ) (taken : Bytes) : Prop :=
  ∃ chain : EncoderChain, compressor.guard = ⟨.built, none, .built chain⟩ ∧
    chain.names.length = chain.depth ∧
    EncoderStack.Vouches decoders received names (chain.stack, compressor.outlet) taken

variable {compressor : Compressor σ} {taken : Bytes}

/-- Initializing leaves a compressor that stands alone. -/
theorem Stands.init (h : compressor.Stands decoders received names taken) :
    compressor.init = (.done (), compressor) := by
  obtain ⟨chain, hguard, -⟩ := h
  exact init_of_chain hguard

/-- A write takes what it says. -/
theorem Stands.write (hr : Sink.Accounts received)
    (h : compressor.Stands decoders received names taken) (data : Bytes) :
    Except.Accounts (compressor.writeBuilt data).1 data taken
      ((compressor.writeBuilt data).2.Stands decoders received names) := by
  obtain ⟨⟨depth, stack, list⟩, hguard, hlen, hvouches⟩ := h
  have haccounts := (EncoderStack.writer_accounts hr depth).write _ taken data hvouches
  rcases hwritten : (EncoderStack.writer depth).write (stack, compressor.outlet) data with
    ⟨answer, next, outlet⟩
  have hchain : EncoderChain.write data ⟨depth, stack, list⟩ compressor.outlet =
      (answer, ⟨depth, next, list⟩, outlet) := by
    rw [EncoderChain.write, hwritten]
  rw [hwritten] at haccounts
  rw [writeBuilt_of_built (congrArg InitGuard.state hguard), hguard, hchain]
  cases answer with
  | ok count => exact ⟨haccounts.1, _, rfl, hlen, haccounts.2⟩
  | error fault => exact ⟨_, rfl, hlen, haccounts⟩

/-- A flush takes nothing. -/
theorem Stands.flush (hr : Sink.Accounts received)
    (h : compressor.Stands decoders received names taken) :
    compressor.flush.2.Stands decoders received names taken := by
  obtain ⟨⟨depth, stack, list⟩, hguard, hlen, hvouches⟩ := h
  have hnext := (EncoderStack.writer_accounts hr depth).flush _ taken hvouches
  have hbuilt : compressor.guard.isBuilt = true := by rw [hguard]; rfl
  rw [flush_of_built hbuilt (congrArg InitGuard.state hguard), hguard]
  exact ⟨_, rfl, hlen, hnext⟩

/-- If a compressor is finished without an error, the sink holds what decodes to all that was
taken. -/
theorem Stands.finish (hr : Sink.Accounts received)
    (h : compressor.Stands decoders received names taken) (hclosed : compressor.finish.1 = .ok ()) :
    ∃ bytes, received compressor.finish.2.outlet.sink bytes ∧
      EventuallyRecovers decoders names bytes taken := by
  obtain ⟨chain, hguard, hlen, hvouches⟩ := h
  have hentries : chain.names.zipIdx.reverse.length = chain.depth := by
    rw [List.length_reverse, List.length_zipIdx, hlen]
  have hstate := congrArg InitGuard.state hguard
  rw [finish_of_built hstate] at hclosed
  obtain ⟨bytes, hgot, hrecovers⟩ :=
    EncoderStack.finalizeAlong_vouches hr hentries hvouches hclosed
  exact ⟨bytes, finish_sink hstate ▸ hgot, hrecovers⟩

/-- The chain stands, or would after initializing, and answers for what has been taken. -/
def Answers (decoders : Nat → DecoderRegistry) (received : σ → Bytes → Prop) (names : List String)
    (compressor : Compressor σ) (taken : Bytes) : Prop :=
  compressor.Stands decoders received names taken ∨
    compressor.guard.isUnbuilt = true ∧ compressor.init.1 = .done () ∧
      compressor.init.2.Stands decoders received names taken

/-- After initializing, the chain stands. -/
theorem Answers.init (h : compressor.Answers decoders received names taken) :
    compressor.init.1 = .done () ∧ compressor.init.2.Stands decoders received names taken := by
  rcases h with hstands | ⟨-, hinit, hstands⟩
  · rw [hstands.init]
    exact ⟨rfl, hstands⟩
  · exact ⟨hinit, hstands⟩

/-- Whatever comes of a call, the compressor answers for what was taken, by the call as well. -/
theorem Answers.attempt (hr : Sink.Accounts received)
    (h : compressor.Answers decoders received names taken) (feed : Feed) :
    (compressor.attempt feed).2.Answers decoders received names
      (taken ++ (compressor.attempt feed).1) := by
  cases feed with
  | piece data =>
    obtain ⟨hinit, hstands⟩ := h.init
    have haccounts := hstands.write hr data
    simp only [Compressor.attempt, write_eq, hinit]
    generalize compressor.init.2.writeBuilt data = written at haccounts
    obtain ⟨answer, after⟩ := written
    cases answer with
    | ok count => exact .inl haccounts.2
    | error fault =>
      rw [← List.append_nil taken] at haccounts
      exact .inl haccounts
  | flush =>
    rw [Compressor.attempt, List.append_nil]
    rcases h with hstands | ⟨hunbuilt, hinit, hstands⟩
    · exact .inl (hstands.flush hr)
    · have hb : compressor.guard.isBuilt = false := by
        rw [InitGuard.isUnbuilt, beq_iff_eq] at hunbuilt
        rw [InitGuard.isBuilt, hunbuilt]
        rfl
      rw [flush_of_not_built hb]
      exact .inr ⟨hunbuilt, hinit, hstands⟩

/-- After all calls the compressor answers for what they have taken. -/
theorem Answers.attemptAll (hr : Sink.Accounts received)
    (h : compressor.Answers decoders received names taken) (calls : List Feed) :
    (compressor.attemptAll calls).2.Answers decoders received names
      (taken ++ (compressor.attemptAll calls).1) := by
  induction calls generalizing compressor taken with
  | nil =>
    rw [Compressor.attemptAll, List.append_nil]
    exact h
  | cons feed later ih =>
    rw [Compressor.attemptAll, ← List.append_assoc]
    exact ih (h.attempt hr feed)

/-- If a compressor that answers for what was taken is closed without an error, the sink holds what
decodes to it. -/
theorem Answers.close (hr : Sink.Accounts received)
    (h : compressor.Answers decoders received names taken)
    (hclosed : compressor.close.1 = .done ()) :
    ∃ bytes, received compressor.close.2.outlet.sink bytes ∧
      EventuallyRecovers decoders names bytes taken := by
  have hdone : ∀ result : Except PipelineError Unit, Outcome.ofExcept result = .done () →
      result = .ok () := by
    intro result hresult
    cases result with
    | ok _ => rfl
    | error error => cases hresult
  rcases h with hstands | ⟨hunbuilt, hinit, hstands⟩
  · have hunbuilt : compressor.guard.isUnbuilt = false := by
      obtain ⟨chain, hguard, -⟩ := hstands
      rw [hguard]
      rfl
    rw [close_of_settled hunbuilt] at hclosed ⊢
    exact hstands.finish hr (hdone _ hclosed)
  · simp only [close_eq, hunbuilt, if_true, hinit] at hclosed ⊢
    exact hstands.finish hr (hdone _ hclosed)

/-- A new compressor over steadfast layers answers for having taken nothing. -/
theorem answers_create {encoders : EncoderRegistry} {order : List String}
    (hn : ∀ name ∈ order.filter (· != ""), SteadfastAt encoders decoders name) {sink : σ}
    (hsink : received sink []) :
    (create sink encoders order).Answers decoders received (order.filter (· != "")) [] := by
  obtain ⟨chain, hbuilt, hbears, hlabels, hnames, hout⟩ :=
    @EncoderRegistry.realize_bears σ _ encoders decoders _ hn ⟨0, .bottom, []⟩ { sink } rfl rfl
  obtain ⟨hinit, hguard, hattached, hsame⟩ := init_create hbuilt
  have hlen : chain.names.length = chain.depth := by
    rw [hlabels, Stack.length_names]
  have horder : chain.stack.names = order.filter (· != "") := by
    rw [← hlabels, hnames, List.nil_append]
  exact .inr ⟨rfl, hinit, chain, hguard, hlen, hattached, horder, [], hbears,
    hsame ▸ hout ▸ hsink⟩

end Compressor

/-! ### Steadfast layers -/

section Instances

variable {encoders : EncoderRegistry} {decoders : Nat → DecoderRegistry} {name : String}

/-- Layers that do nothing are steadfast. -/
theorem Coding.identity_steadfastAt
    (hencodes : encoders.get? name = some (.always Coding.identityEncoder ()))
    (hdecodes : ∀ patience,
      (decoders patience).get? name = some (.always Coding.identityDecoder ())) :
    SteadfastAt encoders decoders name := by
  refine ⟨Coding.identityEncoder, (), ⟨_, hencodes, rfl, rfl⟩,
    fun _ taken sent => sent = taken, ⟨?_, ?_, ?_⟩, rfl⟩
  · rintro state _ sent data rfl
    exact ⟨fun count hle => ⟨hle, rfl⟩, fun fault => rfl⟩
  · rintro state _ sent rfl
    exact fun answer => rfl
  · rintro state _ sent rfl
    exact fun _ => ⟨rfl, 0, fun patience _ => ⟨sent, _, hdecodes patience,
      ⟨Coding.identityDecoder, (), rfl, Coding.identityDecoder_recovers sent⟩, rfl⟩⟩

end Instances

/-- A delivery loses nothing: what was not taken is handed back, and that is nothing if there was
no error. -/
theorem Push.deliverFor_survives (rule : DeliveryRule) (attempts : Nat) (bytes sent : Bytes) :
    (deliverFor rule attempts bytes).Survives (fun delivery total =>
      total ++ delivery.undelivered = sent ++ bytes ∧
        (delivery.outcome = .ok () → delivery.undelivered = [])) sent := by
  induction attempts generalizing bytes sent with
  | zero =>
    cases bytes with
    | nil => exact ⟨rfl, fun _ => rfl⟩
    | cons byte bytes => exact ⟨rfl, nofun⟩
  | succ attempts ih =>
    cases bytes with
    | nil => exact ⟨rfl, fun _ => rfl⟩
    | cons byte bytes =>
      refine ⟨fun taken hle => ?_, fun fault => ?_⟩
      · cases taken with
        | zero => exact ⟨by rw [List.take_zero, List.append_nil], nofun⟩
        | succ count =>
          refine (ih ((byte :: bytes).drop (count + 1)) _).mono fun delivery total h => ⟨?_, h.2⟩
          rw [h.1, List.append_assoc, List.take_append_drop]
      · dsimp only
        split
        · exact ih _ _
        · exact ⟨rfl, nofun⟩

/-- A packer puts out streams. A relation between states, what was taken and what was put out is
respected by every step, and says what a finished stream is one of. -/
structure Packer.Streams (packer : Packer) (opening : Bytes)
    (holds : packer.State → (taken output : Bytes) → Prop) (whole : (sent taken : Bytes) → Prop) :
    Prop where
  /-- At first there is nothing. -/
  start : holds packer.start [] []
  /-- Taking puts nothing out. -/
  take : ∀ state taken output data, holds state taken output →
    holds (packer.take state data) (taken ++ data) output
  /-- Flushing takes nothing. -/
  flush : ∀ state taken output, holds state taken output →
    holds (packer.flush state).2 taken (output ++ (packer.flush state).1)
  /-- Finishing completes the stream, which begins with the opening. -/
  finish : ∀ state taken output, holds state taken output →
    whole (opening ++ output ++ packer.finish state) taken

namespace Deferred

variable {packer : Packer} {rule : DeferRule} {layer : Deferred packer.State} {sent : Bytes}

/-- Sending moves bytes that are pending to the writer below, and loses none. -/
theorem send_survives (rule : DeferRule) (layer : Deferred packer.State) (sent : Bytes) :
    (layer.send rule).Survives (fun result total =>
      total ++ result.2.opening ++ result.2.pending = sent ++ layer.opening ++ layer.pending ∧
        result.2.packing = layer.packing ∧ result.2.ended = layer.ended ∧
        (result.1 = .ok () → result.2.opening = [] ∧ result.2.pending = [])) sent := by
  refine Push.Survives.bind ((Push.deliverFor_survives _ _ _ sent).mono ?_)
  rintro ⟨outcome, opening⟩ between ⟨hopening, hall⟩
  cases outcome with
  | error fault => exact ⟨congrArg (· ++ layer.pending) hopening, rfl, rfl, nofun⟩
  | ok _ =>
    obtain rfl : opening = [] := hall rfl
    refine Push.Survives.map ((Push.deliverFor_survives _ _ _ between).mono ?_)
    rintro ⟨outcome, pending⟩ total ⟨hpending, hnone⟩
    rw [List.append_nil] at hopening
    refine ⟨?_, rfl, rfl, fun hdone => ⟨rfl, hnone hdone⟩⟩
    rw [List.append_nil, ← hopening]
    exact hpending

/-- What the layer has taken it has packed, and what came of that was sent or is pending. -/
def Keeps (rule : DeferRule) (holds : packer.State → (taken output : Bytes) → Prop)
    (layer : Deferred packer.State) (taken sent : Bytes) : Prop :=
  layer.ended = false ∧ ∃ output, holds layer.packing taken output ∧
    sent ++ layer.opening ++ layer.pending = rule.opening ++ output

variable {holds : packer.State → (taken output : Bytes) → Prop} {whole : Bytes → Bytes → Prop}
variable {taken : Bytes}

/-- Sending keeps what was taken. -/
theorem Keeps.send (h : layer.Keeps rule holds taken sent) :
    (layer.send rule).Survives (fun result total => result.2.Keeps rule holds taken total)
      sent := by
  obtain ⟨hopen, output, hholds, hsent⟩ := h
  refine (send_survives rule layer sent).mono ?_
  rintro ⟨answer, after⟩ total ⟨htotal, hpacking, hended, -⟩
  exact ⟨hended.trans hopen, output, hpacking ▸ hholds, htotal.trans hsent⟩

/-- So does packing all that was taken. -/
theorem Keeps.pack (hs : packer.Streams rule.opening holds whole)
    (h : layer.Keeps rule holds taken sent) : layer.pack.Keeps rule holds taken sent := by
  obtain ⟨packing, opening, pending, ended⟩ := layer
  obtain ⟨hopen, output, hholds, hsent⟩ := h
  obtain rfl : ended = false := hopen
  refine ⟨rfl, _, hs.flush _ _ _ hholds, ?_⟩
  rw [← List.append_assoc, ← hsent]
  exact (List.append_assoc ..).symm

/-- A layer that holds its output back until it is taken is steadfast. -/
theorem keeping (hs : packer.Streams rule.opening holds whole) :
    (packer.encoder rule).Keeping (Keeps rule holds) whole := by
  refine ⟨?_, ?_, ?_⟩
  · intro layer taken sent data h
    refine Push.Survives.map (h.send.mono ?_)
    rintro ⟨answer, after⟩ total hafter
    cases answer with
    | error fault => exact hafter
    | ok _ =>
      obtain ⟨hopen, output, hholds, htotal⟩ := hafter
      refine ⟨Nat.le_refl _, hopen, output, ?_, htotal⟩
      rw [List.take_length]
      exact hs.take _ _ _ data hholds
  · intro layer taken sent h
    refine Push.Survives.bind ((h.pack hs).send.mono ?_)
    rintro ⟨answer, after⟩ total hafter
    cases answer with
    | error fault => exact hafter
    | ok _ => exact fun answer => hafter
  · rintro ⟨packing, opening, pending, ended⟩ taken sent ⟨hopen, output, hholds, hsent⟩
    obtain rfl : ended = false := hopen
    refine (send_survives rule _ sent).mono ?_
    rintro ⟨answer, after⟩ total ⟨htotal, -, -, hnone⟩ hdone
    obtain ⟨hopening, hpending⟩ := hnone hdone
    rw [hopening, hpending, List.append_nil, List.append_nil] at htotal
    refine ⟨rfl, ?_⟩
    have hfinish := hs.finish _ _ _ hholds
    rw [← hsent, List.append_assoc] at hfinish
    rw [htotal]
    exact hfinish

end Deferred

/-- Layers that hold their output back are steadfast if the layers of a decoding factory recover
what is packed. -/
theorem Packer.steadfastAt {encoders : EncoderRegistry} {decoders : Nat → DecoderRegistry}
    {name : String} {packer : Packer} {rule : DeferRule}
    {holds : packer.State → Bytes → Bytes → Prop}
    (hs : packer.Streams rule.opening holds (EventuallyRecovers decoders [name]))
    (hencodes : encoders.get? name =
      some (.always (packer.encoder rule) (Deferred.fresh packer rule))) :
    SteadfastAt encoders decoders name := by
  refine ⟨packer.encoder rule, Deferred.fresh packer rule, ⟨_, hencodes, rfl, rfl⟩,
    Deferred.Keeps rule holds, Deferred.keeping hs, rfl, [], hs.start, ?_⟩
  rw [List.append_nil]
  exact List.append_nil _

end ContentCoding
