import ContentCoding.Proofs.Transcription
import ContentCoding.Scripted.Endpoint
import Mathlib.Order.Filter.AtTopBot.Basic

/-!
# Deliveries in spite of interruptions

An interrupted write is made again until it is answered in another way. How often that may be is
bounded here by a patience, so what an exchange comes to is what it comes to with enough patience.
A writer persists if every offer that is made again after each interruption is taken in the end, at
least a byte of it, and relents if every flush succeeds in the end too. There need be no bound on
the interruptions.

An exchange hands on pieces if all it does is to write them one after another. The main statements
are that such an exchange performs its pieces over a writer that is never interrupted, and that it
settles over one that persists, which has then received the same bytes.
-/

namespace ContentCoding

universe u v w

/-- An offer that is made again after every interruption is taken in the end, at least a byte of it,
and then the bytes taken have been received. -/
inductive Writer.EventuallyTakes {W : Type v} (writer : Writer W) (received : W → Bytes → Prop)
    (data got : Bytes) : W → Prop
  /-- Some bytes are taken. -/
  | takes {world after : W} {taken : Nat} (some : 1 ≤ taken) (fits : taken ≤ data.length)
      (answer : writer.write world data = (.ok taken, after))
      (receives : received after (got ++ data.take taken)) :
      EventuallyTakes writer received data got world
  /-- The write is interrupted, and taken when it is made again. -/
  | interrupted {world after : W} {fault : Fault} (interruption : fault.isInterruption = true)
      (answer : writer.write world data = (.error fault, after))
      (again : EventuallyTakes writer received data got after) :
      EventuallyTakes writer received data got world

/-- A writer of which a relation tells the bytes that it has received takes some of every offer in
the end. Whatever it answers a flush, that changes nothing about the bytes. -/
structure Writer.Persists {W : Type v} (writer : Writer W) (received : W → Bytes → Prop) :
    Prop where
  /-- Some of what is offered is received in the end. -/
  write : ∀ world got data, data ≠ [] → received world got →
    writer.EventuallyTakes received data got world
  /-- A flush adds nothing. -/
  flush : ∀ world got, received world got → received (writer.flush world).2 got

/-- A flush that is made again after every interruption succeeds in the end, and the bytes received
are the same then. -/
inductive Writer.EventuallyFlushes {W : Type v} (writer : Writer W) (received : W → Bytes → Prop)
    (got : Bytes) : W → Prop
  /-- The flush succeeds. -/
  | flushes {world after : W} (answer : writer.flush world = (.ok (), after))
      (receives : received after got) : EventuallyFlushes writer received got world
  /-- The flush is interrupted, and succeeds when it is made again. -/
  | interrupted {world after : W} {fault : Fault} (interruption : fault.isInterruption = true)
      (answer : writer.flush world = (.error fault, after))
      (again : EventuallyFlushes writer received got after) :
      EventuallyFlushes writer received got world

/-- A writer that persists relents if its flushes succeed in the end as well. -/
structure Writer.Relents {W : Type v} (writer : Writer W) (received : W → Bytes → Prop) : Prop
    extends writer.Persists received where
  /-- A flush succeeds in the end. -/
  succeeds : ∀ world got, received world got → writer.EventuallyFlushes received got world

namespace Push

variable {α : Type u} {β : Type w}

/-- With enough patience the exchange ends with a result and leaves the writer in a world. -/
def Settles {W : Type v} (writer : Writer W) (push : (patience : Nat) → Push α) (world : W)
    (result : α) (after : W) : Prop :=
  ∀ᶠ patience in Filter.atTop, (push patience).run writer world = (result, after)

/-- As long as no write fails, the exchange writes all of some pieces, one after another, and ends
with a result. -/
inductive Hands (patience : Nat) : Push α → (pieces : List Bytes) → (result : α) → Prop
  /-- There is nothing to write. -/
  | done (result : α) : Hands patience (.done result) [] result
  /-- One piece is written before the others. -/
  | write {bytes : Bytes} {second : Except Fault Unit → Push α} {pieces : List Bytes} {result : α}
      (later : Hands patience (second (.ok ())) pieces result) :
      Hands patience ((writeAll patience bytes).bind second) (bytes :: pieces) result

variable {patience : Nat} {push : Push α} {pieces : List Bytes} {result : α}

/-- An exchange that hands on pieces performs a script with the same content. -/
theorem Hands.ends (h : push.Hands patience pieces result) :
    ∃ script, Feed.Proper script ∧ push.Ends result script ∧
      Feed.content script = pieces.flatten := by
  induction h with
  | done result => exact ⟨[], nofun, fun later => ⟨rfl, rfl⟩, rfl⟩
  | @write bytes second pieces result later ih =>
    obtain ⟨script, hproper, hends, hcontent⟩ := ih
    refine ⟨Feed.rest bytes [] ++ script, (Feed.proper_rest bytes).append hproper,
      (Ends.writeAll patience bytes).bind hends, ?_⟩
    rw [Feed.content_append, Feed.content_rest, Feed.content, List.append_nil, hcontent,
      List.flatten_cons]

/-- An exchange hands on the same pieces if its result is changed. -/
theorem Hands.map (h : push.Hands patience pieces result) (f : α → β) :
    (push.map f).Hands patience pieces (f result) := by
  induction h with
  | done result => exact .done (f result)
  | write later ih =>
    rw [map_bind]
    exact .write ih

variable {W : Type v} {writer : Writer W} {received : W → Bytes → Prop} {world : W} {got : Bytes}

/-- An exchange without a choice settles. -/
theorem settles_done (result : α) (world : W) :
    Settles writer (fun _ => .done result) world result world :=
  Filter.Eventually.of_forall fun _ => rfl

/-- What an exchange with one attempt more comes to decides what the exchange settles to. -/
theorem Settles.succ {push other : Nat → Push α} {result : α} {before world after : W}
    (h : Settles writer other before result after)
    (hstep : ∀ patience, (other patience).run writer before = (result, after) →
      (push (patience + 1)).run writer world = (result, after)) :
    Settles writer push world result after := by
  rw [Settles, ← Filter.map_add_atTop_eq_nat 1, Filter.eventually_map]
  exact h.mono hstep

/-- One exchange after another settles as the second does where the first has ended. -/
theorem Settles.bind {first : Nat → Push α} {second : Nat → α → Push β} {middle : α} {result : β}
    {between after : W} (hf : Settles writer first world middle between)
    (hs : Settles writer (fun patience => second patience middle) between result after) :
    Settles writer (fun patience => (first patience).bind (second patience)) world result after := by
  filter_upwards [hf, hs] with patience hfirst hsecond
  rw [run_bind, hfirst]
  exact hsecond

/-- With attempts enough a delivery that makes interrupted writes again delivers all. -/
theorem deliverFor_settles (rule : DeliveryRule) (hrule : rule.retries = true)
    (hw : writer.Persists received) (bytes : Bytes) {world : W} {got : Bytes}
    (hgot : received world got) :
    ∃ after, received after (got ++ bytes) ∧
      Settles writer (fun attempts => deliverFor rule attempts bytes) world ⟨.ok (), []⟩ after := by
  by_cases hnone : bytes = []
  · subst hnone
    rw [List.append_nil]
    refine ⟨world, hgot, Filter.Eventually.of_forall fun attempts => ?_⟩
    cases attempts <;> rfl
  · have htakes := hw.write world got bytes hnone hgot
    obtain ⟨byte, rest, hbytes⟩ := List.exists_cons_of_ne_nil hnone
    clear hgot
    induction htakes with
    | @takes world next taken some fits answer receives =>
      have hshorter : (bytes.drop taken).length < bytes.length := by
        rw [List.length_drop]
        omega
      obtain ⟨after, hall, hrest⟩ := deliverFor_settles rule hrule hw (bytes.drop taken) receives
      rw [List.append_assoc, List.take_append_drop] at hall
      refine ⟨after, hall, hrest.succ ?_⟩
      intro attempts hrun
      obtain ⟨count, rfl⟩ := Nat.exists_eq_add_of_le' some
      rw [hbytes] at answer hrun ⊢
      simp only [deliverFor, Push.run, answer]
      exact hrun
    | @interrupted world next fault interruption answer again ih =>
      obtain ⟨after, hall, hrest⟩ := ih
      refine ⟨after, hall, hrest.succ ?_⟩
      intro attempts hrun
      rw [hbytes] at answer hrun ⊢
      simp only [deliverFor, Push.run, answer, hrule, interruption, Bool.and_self, if_true]
      exact hrun
termination_by bytes.length

/-- Over a writer that persists all of a piece is written. -/
theorem writeAll_settles (hw : writer.Persists received) (bytes : Bytes)
    (hgot : received world got) :
    ∃ after, received after (got ++ bytes) ∧
      Settles writer (fun patience => writeAll patience bytes) world (.ok ()) after := by
  obtain ⟨after, hall, hrun⟩ := deliverFor_settles .complete rfl hw bytes hgot
  have hdeliver : Settles writer (fun patience => deliver .complete patience bytes) world
      ⟨.ok (), []⟩ after := by
    filter_upwards [(Filter.tendsto_add_atTop_nat bytes.length).eventually hrun] with patience hrest
    rw [deliver, Nat.add_comm]
    exact hrest
  exact ⟨after, hall, hdeliver.bind (settles_done _ after)⟩

/-- Over a writer that relents a flush that is made again after interruptions succeeds. -/
theorem flushRetrying_settles (hw : writer.Relents received) (hgot : received world got) :
    ∃ after, received after got ∧ Settles writer flushRetrying world (.ok ()) after := by
  have hflushes := hw.succeeds world got hgot
  clear hgot
  induction hflushes with
  | @flushes world after answer receives =>
    refine ⟨after, receives, Filter.Eventually.of_forall fun patience => ?_⟩
    cases patience <;> simp only [flushRetrying, Push.run, answer]
  | @interrupted world next fault interruption answer again ih =>
    obtain ⟨after, hafter, hlater⟩ := ih
    refine ⟨after, hafter, hlater.succ fun patience hrun => ?_⟩
    simp only [flushRetrying, Push.run, answer, interruption, if_true]
    exact hrun

/-- An exchange that hands on pieces settles over a writer that persists, and the writer has then
received the pieces. -/
theorem Hands.settles {push : Nat → Push α} (hw : writer.Persists received)
    (h : ∀ patience, (push patience).Hands patience pieces result) (hgot : received world got) :
    ∃ after, received after (got ++ pieces.flatten) ∧ Settles writer push world result after := by
  induction pieces generalizing push world got with
  | nil =>
    have hpush : push = fun _ => .done result := by
      funext patience
      have hdone := h patience
      generalize push patience = exchange at hdone
      cases hdone
      rfl
    rw [List.flatten_nil, List.append_nil, hpush]
    exact ⟨world, hgot, settles_done result world⟩
  | cons bytes pieces ih =>
    have hsplit : ∀ patience, ∃ second : Except Fault Unit → Push α,
        push patience = (writeAll patience bytes).bind second ∧
          (second (.ok ())).Hands patience pieces result := by
      intro patience
      have hwrite := h patience
      generalize push patience = exchange at hwrite
      cases hwrite with
      | @write _ second _ _ later => exact ⟨second, rfl, later⟩
    choose second hpush hlater using hsplit
    obtain ⟨between, hbetween, hfirst⟩ := writeAll_settles hw bytes hgot
    obtain ⟨after, hafter, hrest⟩ := ih hlater hbetween
    rw [List.append_assoc] at hafter
    refine ⟨after, hafter, ?_⟩
    rw [funext hpush]
    exact hfirst.bind hrest

end Push

namespace ScriptedSink

/-- A stack without layers is over an attached sink that interrupts its first writes, and that has
taken some bytes. -/
def Interrupts (times : Nat) (fault : Fault)
    (world : EncoderStack 0 × Outlet ScriptedSink) (got : Bytes) : Prop :=
  world.2.attached = true ∧ world.2.sink.script = .failsFirst times fault ∧
    world.2.sink.taken.toList = got

variable {times : Nat} {fault : Fault}

/-- Once its interruptions are over, the sink takes all of an offer. -/
theorem eventuallyTakes (hfault : fault.isInterruption = true) {data got : Bytes}
    (hdata : data ≠ []) {world : EncoderStack 0 × Outlet ScriptedSink}
    (h : Interrupts times fault world got) :
    (EncoderStack.writer 0).EventuallyTakes (Interrupts times fault) data got world := by
  obtain ⟨stack, outlet⟩ := world
  obtain ⟨hattached, hscript, hgot⟩ := h
  dsimp only at hattached hscript hgot
  induction hleft : times - outlet.sink.writes generalizing outlet with
  | zero =>
    have hover : ¬outlet.sink.writes < times := Nat.not_lt.mpr (Nat.sub_eq_zero_iff_le.mp hleft)
    have hanswer : (EncoderStack.writer 0).write (stack, outlet) data =
        (.ok data.length, stack,
          { outlet with
            sink :=
              { outlet.sink with
                taken := outlet.sink.taken.appendList data
                writes := outlet.sink.writes + 1 }
            counters := outlet.counters.addEncoded data.length }) := by
      simp only [EncoderStack.writer, Outlet.write, hattached, if_true, Sink.write,
        ScriptedSink.write, hscript, hover, if_false, take, List.take_length]
    have hreceived : (outlet.sink.taken.appendList data).toList = got ++ data.take data.length := by
      rw [List.take_length, ← hgot]
      exact Array.toList_appendList
    exact .takes (List.length_pos_iff.mpr hdata) (Nat.le_refl _) hanswer
      ⟨hattached, hscript, hreceived⟩
  | succ left ih =>
    have hfails : outlet.sink.writes < times := by omega
    have hanswer : (EncoderStack.writer 0).write (stack, outlet) data =
        (.error fault, stack,
          { outlet with sink := { outlet.sink with writes := outlet.sink.writes + 1 } }) := by
      simp only [EncoderStack.writer, Outlet.write, hattached, if_true, Sink.write,
        ScriptedSink.write, hscript, hfails]
    have hfewer : times - (outlet.sink.writes + 1) = left := by omega
    exact .interrupted hfault hanswer (ih _ hattached hscript hgot hfewer)

/-- A flush of the sink succeeds, and changes nothing about the bytes. -/
theorem flush_interrupts {world : EncoderStack 0 × Outlet ScriptedSink} {got : Bytes}
    (h : Interrupts times fault world got) :
    ((EncoderStack.writer 0).flush world).1 = .ok () ∧
      Interrupts times fault ((EncoderStack.writer 0).flush world).2 got := by
  obtain ⟨stack, outlet⟩ := world
  obtain ⟨hattached, hscript, hgot⟩ := h
  dsimp only at hattached hscript hgot
  have hflush : (EncoderStack.writer 0).flush (stack, outlet) =
      (.ok (), stack, { outlet with sink := (Sink.flush outlet.sink).2 }) := by
    simp only [EncoderStack.writer, Outlet.flush, hattached, if_true, Sink.flush,
      ScriptedSink.flush, hscript]
  rw [hflush]
  exact ⟨rfl, hattached, hscript, hgot⟩

/-- The sink persists. -/
theorem persists (hfault : fault.isInterruption = true) :
    (EncoderStack.writer 0).Persists (Interrupts times fault) :=
  ⟨fun _ _ _ hdata h => eventuallyTakes hfault hdata h, fun _ _ h => (flush_interrupts h).2⟩

/-- The sink relents. -/
theorem relents (hfault : fault.isInterruption = true) :
    (EncoderStack.writer 0).Relents (Interrupts times fault) := by
  refine ⟨persists hfault, fun world got h => ?_⟩
  obtain ⟨hanswer, hafter⟩ := flush_interrupts h
  exact .flushes (Prod.ext hanswer rfl) hafter

end ScriptedSink

end ContentCoding
