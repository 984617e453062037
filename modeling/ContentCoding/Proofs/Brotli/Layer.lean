import ContentCoding.Brotli.Layer
import ContentCoding.Proofs.Brotli.Raw
import ContentCoding.Proofs.Ledger

/-!
# Finalizing Brotli layers

An encoding layer remembers the first fault of the writer below, and that is all it knows of the
bytes that end the stream. So what finalizing reports is set here against a ledger of all that the
writer below has answered.

The main statements are about any engine whose streams decode to what it has taken. If all calls
before it have succeeded and finalizing succeeds as well, the writer below has taken the stream, all
of it unless it took nothing of an offer. That refusal is what the layer cannot see. And if the
writer below does no worse than to interrupt some calls, it comes to hold the stream, and finalizing
succeeds unless there was an interruption, which the layer cannot tell from a loss.
-/

namespace ContentCoding.Brotli

universe u v

/-- The first fault in a ledger, as a layer remembers it. -/
def remembered (ledger : Ledger) : Option Fault :=
  ledger.faults.head?.map fun fault => .described fault.kind fault.message

/-- A fault is remembered if it is the first. -/
theorem latch_error {α : Type} (ledger : Ledger) (fault : Fault) :
    latch (α := α) (remembered ledger) (.error fault) =
      remembered { ledger with faults := ledger.faults ++ [fault] } := by
  obtain ⟨taken, refused, faults⟩ := ledger
  cases faults <;> rfl

/-- What is remembered after an offer is the first fault by then. -/
theorem latch_offered (ledger : Ledger) (bytes : Bytes) (answer : Except Fault Nat) :
    latch (remembered ledger) answer = remembered (ledger.offered bytes answer) := by
  cases answer with
  | error fault => exact latch_error ledger fault
  | ok taken =>
    have hsame : latch (remembered ledger) (.ok taken) = remembered ledger := by
      cases remembered ledger <;> rfl
    rw [hsame]
    cases taken <;> rfl

/-- What is remembered after a flush is the first fault by then. -/
theorem latch_flushed (ledger : Ledger) (answer : Except Fault Unit) :
    latch (remembered ledger) answer = remembered (ledger.flushed answer) := by
  cases answer with
  | error fault => exact latch_error ledger fault
  | ok _ =>
    rw [Ledger.flushed]
    cases remembered ledger <;> rfl

variable {W : Type v} {writer : Writer W} {received : W × Ledger → Bytes → Prop}

/-- An exchange that remembers the first fault ends as it would without, and then what is remembered
is the first fault in the ledger. -/
theorem run_latched {α : Type} (push : Push α) (world : W × Ledger) :
    (latched push (remembered world.2)).run writer.logged world =
      (((push.run writer.logged world).1, remembered (push.run writer.logged world).2.2),
        (push.run writer.logged world).2) := by
  induction push generalizing world with
  | done result => rfl
  | write bytes next ih =>
    simp only [latched, Push.run, latch_offered world.2 bytes]
    exact ih _ (writer.logged.write world bytes).2
  | flush next ih =>
    simp only [latched, Push.run, latch_flushed world.2]
    exact ih _ (writer.logged.flush world).2
  | remark text next ih => exact ih (writer.logged.remark world text)

/-! ### What the writer below has taken -/

/-- What has become of bytes that were to be handed on, by the answer and the ledger after that:
either all of them were taken, or some were lost, and there has been a refusal or a fault. -/
inductive Conveyed (before bytes : Bytes) : Except Fault Unit → Ledger → Prop
  /-- All bytes were taken. -/
  | all {after : Ledger} (taken : after.taken = before ++ bytes) (accepted : after.refused = false) :
      Conveyed before bytes (.ok ()) after
  /-- Some were lost. -/
  | part {sent left : Bytes} {fault : Fault} {after : Ledger} (split : sent ++ left = bytes)
      (lost : left ≠ []) (taken : after.taken = before ++ sent)
      (told : after.refused = true ∨ after.faults ≠ []) :
      Conveyed before bytes (.error fault) after

/-- Bytes may be handed on behind others that were taken. -/
theorem Conveyed.behind {before front bytes : Bytes} {answer : Except Fault Unit} {after : Ledger}
    (h : Conveyed (before ++ front) bytes answer after) :
    Conveyed before (front ++ bytes) answer after := by
  cases h with
  | all taken accepted =>
    rw [List.append_assoc] at taken
    exact .all taken accepted
  | @part sent left _ _ split lost taken told =>
    rw [List.append_assoc] at taken
    refine .part ?_ lost taken told
    rw [List.append_assoc, split]

/-- If some bytes were lost, so are those behind them. -/
theorem Conveyed.cut_off {before bytes : Bytes} {fault : Fault} {after : Ledger}
    (h : Conveyed before bytes (.error fault) after) (rest : Bytes) :
    Conveyed before (bytes ++ rest) (.error fault) after := by
  cases h with
  | @part sent left _ _ split lost taken told =>
    refine .part ?_ (List.append_ne_nil_of_left_ne_nil lost rest) taken told
    rw [← List.append_assoc, split]

namespace Conveyor

variable {ledger : Ledger}

/-- A piece is handed on or lost. -/
theorem offer_logs (attempts : Nat) {piece : Bytes} (ledger : Ledger) (h : ledger.refused = false)
    (hattempts : piece.length ≤ attempts ∨ ledger.faults ≠ []) :
    (offer attempts piece false).Logs
      (fun result after => result.2 = after.refused ∧ Conveyed ledger.taken piece result.1 after)
      ledger := by
  induction attempts generalizing piece ledger with
  | zero =>
    cases piece with
    | nil => exact ⟨h.symm, .all (List.append_nil _).symm h⟩
    | cons byte piece =>
      have hfaults : ledger.faults ≠ [] := hattempts.resolve_left (Nat.not_succ_le_zero _)
      exact ⟨h.symm, .part rfl (List.cons_ne_nil _ _) (List.append_nil _).symm (.inr hfaults)⟩
  | succ attempts ih =>
    cases piece with
    | nil => exact ⟨h.symm, .all (List.append_nil _).symm h⟩
    | cons byte piece =>
      intro answer
      cases answer with
      | ok taken =>
        cases taken with
        | zero =>
          exact ⟨rfl, .part rfl (List.cons_ne_nil _ _) (List.append_nil _).symm (.inl rfl)⟩
        | succ taken =>
          have hless : ((byte :: piece).drop (taken + 1)).length ≤ attempts ∨
              ledger.faults ≠ [] := by
            refine hattempts.imp_left fun hle => ?_
            rw [List.length_cons] at hle
            rw [List.length_drop, List.length_cons]
            omega
          have hlater := ih (ledger.offered (byte :: piece) (.ok (taken + 1))) h hless
          refine hlater.mono fun result after hresult => ⟨hresult.1, ?_⟩
          have hall := hresult.2.behind
          rwa [List.take_append_drop] at hall
      | error fault =>
        have hfaults : ledger.faults ++ [fault] ≠ [] :=
          List.append_ne_nil_of_right_ne_nil _ (List.cons_ne_nil _ _)
        by_cases hfault : fault.isInterruption = true
        · simp only [hfault, if_true]
          exact ih (ledger.offered (byte :: piece) (.error fault)) h (.inr hfaults)
        · simp only [hfault]
          exact ⟨h.symm, .part rfl (List.cons_ne_nil _ _) (List.append_nil _).symm (.inr hfaults)⟩

/-- All that an engine puts out is handed on, or the first part of it that is not tells. -/
theorem convey_logs {S : Type} (patience : Nat) {emission : Emission S} {output : Bytes} {next : S}
    (hwhole : emission.whole = some (output, next)) (h : ledger.refused = false) :
    (convey patience emission false).Logs
      (fun result after => result.2.refused = after.refused ∧
        Conveyed ledger.taken output result.1 after ∧ (result.1 = .ok () → result.2.running = next))
      ledger := by
  induction emission generalizing output ledger with
  | done running =>
    obtain ⟨rfl, rfl⟩ := Prod.mk.inj (Option.some.inj hwhole)
    exact ⟨h.symm, .all (List.append_nil _).symm h, fun _ => rfl⟩
  | stuck running => cases hwhole
  | put piece running later ih =>
    obtain ⟨⟨rest, last⟩, hlater, hsplit⟩ := Option.map_eq_some_iff.mp hwhole
    obtain ⟨rfl, rfl⟩ := Prod.mk.inj hsplit
    have hoffer := offer_logs (piece.length + patience) ledger h (.inl (Nat.le_add_right _ _))
    refine Push.Logs.bind (hoffer.mono ?_)
    rintro ⟨answer, refused⟩ between ⟨hrefused, hpiece⟩
    dsimp only at hrefused hpiece
    cases hpiece with
    | all taken accepted =>
      rw [hrefused, accepted]
      refine (ih hlater accepted).mono ?_
      intro result after hresult
      obtain ⟨hsame, hrest, hrunning⟩ := hresult
      rw [taken] at hrest
      exact ⟨hsame, hrest.behind, hrunning⟩
    | part split lost taken told =>
      exact ⟨hrefused, Conveyed.cut_off (.part split lost taken told) rest, nofun⟩

/-- A conveyor without a refusal has an engine that stands somewhere, and the writer below has taken
some bytes. -/
def Stands {engine : Engine} (conveyor : Conveyor engine.State) (running : engine.State)
    (ledger : Ledger) (taken : Bytes) : Prop :=
  conveyor = { running } ∧ ledger.refused = false ∧ ledger.taken = taken

variable {engine : Engine} {running next : engine.State} {output : Bytes}

/-- If all that an engine puts out is handed on, the conveyor stands behind it. -/
theorem convey_stands (patience : Nat) {emission : Emission engine.State}
    (hwhole : emission.whole = some (output, next)) (h : ledger.refused = false) :
    (convey patience emission false).Logs
      (fun result after => result.1 = .ok () → result.2.Stands next after (ledger.taken ++ output))
      ledger := by
  refine (convey_logs patience hwhole h).mono ?_
  rintro ⟨answer, running, refused⟩ after ⟨hrefused, hconveyed, hrunning⟩ hanswer
  dsimp only at hrefused hconveyed hrunning hanswer
  subst hanswer
  cases hconveyed with
  | all taken accepted =>
    rw [hrunning rfl, hrefused, accepted]
    exact ⟨rfl, accepted, taken⟩

/-- If a write succeeds, the conveyor stands behind what came of it. -/
theorem write_stands (patience : Nat) {data : Bytes}
    (hwhole : (engine.take running data).whole = some (output, next)) (h : ledger.refused = false) :
    (Conveyor.write patience { running } data).Logs
      (fun result after => ∀ count, result.1 = .ok count →
        result.2.Stands next after (ledger.taken ++ output)) ledger := by
  refine Push.Logs.map ((convey_stands patience hwhole h).mono ?_)
  intro result after hstands
  obtain ⟨answer, conveyor⟩ := result
  cases answer with
  | error fault => exact nofun
  | ok _ => exact fun count _ => hstands rfl

/-- A flush that is made again leaves the bytes alone. -/
theorem flushRetrying_logs {taken : Bytes} (patience : Nat) (ledger : Ledger)
    (hrefused : ledger.refused = false) (htaken : ledger.taken = taken) :
    (Push.flushRetrying patience).Logs
      (fun _ after => after.refused = false ∧ after.taken = taken) ledger := by
  induction patience generalizing ledger with
  | zero =>
    intro answer
    cases answer <;> exact ⟨hrefused, htaken⟩
  | succ patience ih =>
    intro answer
    cases answer with
    | ok _ => exact ⟨hrefused, htaken⟩
    | error fault =>
      by_cases hfault : fault.isInterruption = true
      · simp only [hfault, if_true]
        exact ih (ledger.flushed (.error fault)) hrefused htaken
      · simp only [hfault]
        exact ⟨hrefused, htaken⟩

/-- If a flush succeeds, the conveyor stands behind what came of it. -/
theorem flush_stands (patience : Nat)
    (hwhole : (engine.flush running).whole = some (output, next)) (h : ledger.refused = false) :
    (Conveyor.flush patience { running }).Logs
      (fun result after => result.1 = .ok () →
        result.2.Stands next after (ledger.taken ++ output)) ledger := by
  refine Push.Logs.bind ((convey_stands patience hwhole h).mono ?_)
  intro result after hstands
  obtain ⟨answer, conveyor⟩ := result
  cases answer with
  | error fault => exact nofun
  | ok _ =>
    obtain ⟨hconveyor, hrefused, htaken⟩ := hstands rfl
    refine Push.Logs.map ((flushRetrying_logs patience _ hrefused htaken).mono ?_)
    exact fun answer last hlast _ => ⟨hconveyor, hlast⟩

end Conveyor

namespace WriterState

variable {engine : Engine} {patience : Nat} {running next : engine.State} {output : Bytes}
variable {world last : W × Ledger}

/-- A layer that knows of no refusal and remembers the first fault in a ledger. -/
def beside (running : engine.State) (ledger : Ledger) : WriterState engine.State :=
  { conveyor := { running }, first := remembered ledger }

/-- A write is that of the conveyor. -/
theorem run_write (data : Bytes) :
    ((beside running world.2).write patience data).run writer.logged world =
      let conveyed := (Conveyor.write patience { running } data).run writer.logged world
      ((conveyed.1.1, { conveyor := conveyed.1.2, first := remembered conveyed.2.2 }),
        conveyed.2) := by
  rw [beside, WriterState.write, Push.map, Push.run_bind, run_latched]
  rfl

/-- A flush is that of the conveyor. -/
theorem run_flush :
    ((beside running world.2).flush patience).run writer.logged world =
      let conveyed := (Conveyor.flush patience { running }).run writer.logged world
      ((conveyed.1.1, { conveyor := conveyed.1.2, first := remembered conveyed.2.2 }),
        conveyed.2) := by
  rw [beside, WriterState.flush, Push.map, Push.run_bind, run_latched]
  rfl

/-- So is the end of the stream. -/
theorem run_finish :
    ((beside running world.2).finish patience).run writer.logged world =
      let conveyed := (Conveyor.finish patience { running }).run writer.logged world
      ({ conveyor := conveyed.1, first := remembered conveyed.2.2, ended := true },
        conveyed.2) := by
  rw [beside, WriterState.finish, Push.map, Push.run_bind, run_latched]
  rfl

/-- The layer has taken some of a script. What the writer below has taken of the stream and what is
to come for the rest of the script are the whole stream. -/
def Owes (layer : WriterState engine.State) (ledger : Ledger) (script : List Feed)
    (encoded : Bytes) : Prop :=
  ∃ running rest, layer = beside running ledger ∧ ledger.refused = false ∧
    engine.encodeFrom running script = some rest ∧ ledger.taken ++ rest = encoded

variable {layer after : WriterState engine.State} {later : List Feed} {encoded : Bytes}

/-- A conveyor that stands behind what came of a piece or a flush owes the later script. -/
theorem owes_of_stands {conveyor : Conveyor engine.State} {before after : Ledger} {rest : Bytes}
    (h : conveyor.Stands next after (before.taken ++ output))
    (hrest : engine.encodeFrom next later = some rest)
    (hencoded : before.taken ++ (output ++ rest) = encoded) :
    Owes { conveyor, first := remembered after } after later encoded := by
  obtain ⟨rfl, hrefused, htaken⟩ := h
  refine ⟨next, rest, rfl, hrefused, hrest, ?_⟩
  rw [htaken, List.append_assoc]
  exact hencoded

/-- After a write that succeeds the layer owes the later script. -/
theorem Owes.write {data : Bytes} (h : layer.Owes world.2 (.piece data :: later) encoded)
    {count : Nat} (hrun : (layer.write patience data).run writer.logged world =
      ((.ok count, after), last)) : after.Owes last.2 later encoded := by
  obtain ⟨running, all, rfl, hrefused, hall, hencoded⟩ := h
  obtain ⟨output, next, rest, hwhole, hrest, rfl⟩ := Engine.encodeFrom_cons.mp hall
  have hstands := (Conveyor.write_stands patience hwhole hrefused).run writer world.1
  rw [run_write] at hrun
  obtain ⟨hresult, rfl⟩ := Prod.mk.inj hrun
  obtain ⟨hanswer, rfl⟩ := Prod.mk.inj hresult
  exact owes_of_stands (hstands count hanswer) hrest hencoded

/-- After a flush that succeeds the layer owes the later script. -/
theorem Owes.flush (h : layer.Owes world.2 (.flush :: later) encoded)
    (hrun : (layer.flush patience).run writer.logged world = ((.ok (), after), last)) :
    after.Owes last.2 later encoded := by
  obtain ⟨running, all, rfl, hrefused, hall, hencoded⟩ := h
  obtain ⟨output, next, rest, hwhole, hrest, rfl⟩ := Engine.encodeFrom_cons.mp hall
  have hstands := (Conveyor.flush_stands patience hwhole hrefused).run writer world.1
  rw [run_flush] at hrun
  obtain ⟨hresult, rfl⟩ := Prod.mk.inj hrun
  obtain ⟨hanswer, rfl⟩ := Prod.mk.inj hresult
  exact owes_of_stands (hstands hanswer) hrest hencoded

/-- After a call that succeeds the layer owes the later script. -/
theorem Owes.perform {feed : Feed} (h : layer.Owes world.2 (feed :: later) encoded)
    {answer : Except Fault Nat} (hrun : (encoderOver engine patience).perform writer.logged layer
      world feed = (answer, after, last)) (hok : answer.isOk = true) :
    after.Owes last.2 later encoded := by
  cases feed with
  | piece data =>
    rcases hwrite : (layer.write patience data).run writer.logged world with
      ⟨⟨given, following⟩, beyond⟩
    simp only [Encoder.perform, encoderOver, hwrite, Prod.mk.injEq] at hrun
    obtain ⟨rfl, rfl, rfl⟩ := hrun
    cases given with
    | error fault => cases hok
    | ok count => exact h.write hwrite
  | flush =>
    rcases hflush : (layer.flush patience).run writer.logged world with
      ⟨⟨given, following⟩, beyond⟩
    simp only [Encoder.perform, encoderOver, hflush, Prod.mk.injEq] at hrun
    obtain ⟨rfl, rfl, rfl⟩ := hrun
    cases given with
    | error fault => cases hok
    | ok _ => exact h.flush hflush

/-- After calls that all succeed the layer owes the later script. -/
theorem Owes.performAll {script : List Feed} (h : layer.Owes world.2 (script ++ later) encoded)
    {answers : List (Except Fault Nat)}
    (hrun : (encoderOver engine patience).performAll writer.logged script layer world =
      (answers, after, last)) (hok : ∀ answer ∈ answers, answer.isOk = true) :
    after.Owes last.2 later encoded := by
  induction script generalizing layer world answers with
  | nil =>
    obtain ⟨-, hrest⟩ := Prod.mk.inj hrun
    obtain ⟨rfl, rfl⟩ := Prod.mk.inj hrest
    exact h
  | cons feed script ih =>
    rcases hfirst : (encoderOver engine patience).perform writer.logged layer world feed with
      ⟨answer, middle, between⟩
    rcases hlater : (encoderOver engine patience).performAll writer.logged script middle between with
      ⟨others, final, beyond⟩
    rw [Encoder.performAll_cons hfirst hlater] at hrun
    obtain ⟨rfl, hrest⟩ := Prod.mk.inj hrun
    obtain ⟨rfl, rfl⟩ := Prod.mk.inj hrest
    have hmiddle := h.perform hfirst (hok answer List.mem_cons_self)
    exact ih hmiddle hlater fun other hmem => hok other (List.mem_cons_of_mem _ hmem)

/-- Nothing is remembered of a ledger without faults, and of no other. -/
theorem remembered_eq_none {ledger : Ledger} : remembered ledger = none ↔ ledger.faults = [] := by
  rw [remembered, Option.map_eq_none_iff, List.head?_eq_none_iff]

/-- Finalizing succeeds if the flush has succeeded and nothing is remembered. -/
theorem report_eq_ok {flushed : Except Fault Unit} {first : Option Fault} :
    report flushed first = .ok () ↔ flushed = .ok () ∧ first = none := by
  cases flushed <;> cases first <;> simp [report]

/-- If nothing is remembered at the end of the stream, the writer below has taken a first part of
what was owed, and all of it unless there has been a refusal. -/
theorem Owes.finish (h : layer.Owes world.2 [] encoded)
    (hrun : (layer.finish patience).run writer.logged world = (after, last))
    (hnone : after.first = none) :
    last.2.taken <+: encoded ∧ (last.2.taken = encoded ↔ last.2.refused = false) := by
  obtain ⟨running, rest, rfl, hrefused, hrest, rfl⟩ := h
  obtain ⟨next, hwhole⟩ := Engine.encodeFrom_nil.mp hrest
  have hlogs : (Conveyor.finish patience { running }).Logs
      (fun _ after => ∃ answer, Conveyed world.2.taken rest answer after) world.2 :=
    Push.Logs.map ((Conveyor.convey_logs patience hwhole hrefused).mono
      fun result _ hresult => ⟨result.1, hresult.2.1⟩)
  obtain ⟨answer, hconveyed⟩ := hlogs.run writer world.1
  rw [run_finish] at hrun
  obtain ⟨rfl, rfl⟩ := Prod.mk.inj hrun
  have hfaults := remembered_eq_none.mp hnone
  cases hconveyed with
  | all taken accepted => exact ⟨taken ▸ List.prefix_rfl, iff_of_true taken accepted⟩
  | @part sent left fault _ split lost taken told =>
    have hlonger : world.2.taken ++ rest = world.2.taken ++ sent ++ left := by
      rw [← split, List.append_assoc]
    have hrefusal := told.resolve_right fun hne => hne hfaults
    refine ⟨⟨left, ?_⟩, iff_of_false ?_ ?_⟩
    · exact (congrArg (· ++ left) taken).trans hlonger.symm
    · intro hsame
      exact lost (List.self_eq_append_right.mp ((taken.symm.trans hsame).trans hlonger))
    · rw [Bool.not_eq_false]
      exact hrefusal

/-- If finalizing succeeds, the writer below has taken a first part of what was owed, and all of it
unless there has been a refusal. -/
theorem Owes.finalize (h : layer.Owes world.2 [.flush] encoded)
    (hrun : (layer.finalize patience).run writer.logged world = ((.ok (), after), last)) :
    last.2.taken <+: encoded ∧ (last.2.taken = encoded ↔ last.2.refused = false) := by
  have hopen : layer.ended = false := by
    obtain ⟨running, all, rfl, -⟩ := h
    rfl
  rcases hflush : (layer.flush patience).run writer.logged world with ⟨⟨flushed, middle⟩, between⟩
  rcases hfinish : (middle.finish patience).run writer.logged between with ⟨ended, beyond⟩
  have hall : (layer.finalize patience).run writer.logged world =
      ((report flushed ended.first, ended), beyond) := by
    simp only [WriterState.finalize, hopen, Bool.false_eq_true, if_false, Push.run_bind, hflush,
      Push.map, hfinish, Push.run]
  rw [hall] at hrun
  obtain ⟨hresult, rfl⟩ := Prod.mk.inj hrun
  obtain ⟨hreport, -⟩ := Prod.mk.inj hresult
  obtain ⟨rfl, hnone⟩ := report_eq_ok.mp hreport
  exact (h.flush hflush).finish hfinish hnone

end WriterState

/-! ### What a writer that relents comes to hold -/

namespace Conveyor

variable {V : Type v} {writer : Writer V} {received : V → Bytes → Prop} {world : V} {got : Bytes}

/-- Where a delivery that makes interrupted writes again delivers all, a piece is handed on. -/
theorem offer_of_deliverFor {rule : Push.DeliveryRule} (hrule : rule.retries = true)
    {attempts : Nat} {piece : Bytes} {after : V} (refused : Bool)
    (h : (Push.deliverFor rule attempts piece).run writer world = (⟨.ok (), []⟩, after)) :
    (offer attempts piece refused).run writer world = ((.ok (), refused), after) := by
  induction attempts generalizing piece world with
  | zero =>
    cases piece with
    | nil =>
      obtain ⟨-, rfl⟩ := Prod.mk.inj h
      rfl
    | cons byte piece => cases h
  | succ attempts ih =>
    cases piece with
    | nil =>
      obtain ⟨-, rfl⟩ := Prod.mk.inj h
      rfl
    | cons byte piece =>
      rcases hanswer : writer.write world (byte :: piece) with ⟨answer, next⟩
      simp only [Push.deliverFor, Push.run, hanswer] at h
      simp only [offer, Push.run, hanswer]
      cases answer with
      | ok taken =>
        cases taken with
        | zero => cases h
        | succ taken => exact ih h
      | error fault =>
        by_cases hfault : fault.isInterruption = true
        · simp only [hrule, hfault, Bool.and_self, if_true] at h
          simp only [hfault, if_true]
          exact ih h
        · simp only [hfault, Bool.and_false] at h
          cases h

/-- Over a writer that persists all that an engine puts out is handed on. -/
theorem convey_settles {S : Type} (hw : writer.Persists received) {emission : Emission S}
    {output : Bytes} {next : S} (refused : Bool) (hwhole : emission.whole = some (output, next))
    (hgot : received world got) :
    ∃ after, received after (got ++ output) ∧
      Push.Settles writer (fun patience => convey patience emission refused) world
        (.ok (), ⟨next, refused⟩) after := by
  induction emission generalizing output world got with
  | done running =>
    obtain ⟨rfl, rfl⟩ := Prod.mk.inj (Option.some.inj hwhole)
    rw [List.append_nil]
    exact ⟨world, hgot, Push.settles_done _ world⟩
  | stuck running => cases hwhole
  | put piece running later ih =>
    obtain ⟨⟨rest, last⟩, hlater, hsplit⟩ := Option.map_eq_some_iff.mp hwhole
    obtain ⟨rfl, rfl⟩ := Prod.mk.inj hsplit
    obtain ⟨between, hbetween, hdeliver⟩ := Push.deliverFor_settles .complete rfl hw piece hgot
    obtain ⟨after, hafter, hrest⟩ := ih hlater hbetween
    rw [List.append_assoc] at hafter
    have hoffer : Push.Settles writer
        (fun patience => offer (piece.length + patience) piece refused) world
        (.ok (), refused) between := by
      filter_upwards [(Filter.tendsto_add_atTop_nat piece.length).eventually hdeliver]
        with patience hrun
      rw [Nat.add_comm]
      exact offer_of_deliverFor rfl refused hrun
    exact ⟨after, hafter, hoffer.bind hrest⟩

end Conveyor

namespace WriterState

variable {engine : Engine} {running next : engine.State} {output got : Bytes} {world : W × Ledger}

/-- A write takes all it is given. -/
theorem write_settles (hw : writer.logged.Relents received) {data : Bytes}
    (hwhole : (engine.take running data).whole = some (output, next)) (hgot : received world got) :
    ∃ after, received after (got ++ output) ∧
      Push.Settles writer.logged (fun patience => (beside running world.2).write patience data) world
        (.ok data.length, beside next after.2) after := by
  obtain ⟨after, hafter, hconvey⟩ := Conveyor.convey_settles hw.toPersists false hwhole hgot
  refine ⟨after, hafter, hconvey.mono fun patience hrun => ?_⟩
  simp only [run_write, Conveyor.write, Push.map, Push.run_bind, hrun]
  rfl

/-- A flush succeeds. -/
theorem flush_settles (hw : writer.logged.Relents received)
    (hwhole : (engine.flush running).whole = some (output, next)) (hgot : received world got) :
    ∃ after, received after (got ++ output) ∧
      Push.Settles writer.logged (fun patience => (beside running world.2).flush patience) world
        (.ok (), beside next after.2) after := by
  obtain ⟨between, hbetween, hconvey⟩ := Conveyor.convey_settles hw.toPersists false hwhole hgot
  obtain ⟨after, hafter, hflush⟩ := Push.flushRetrying_settles hw hbetween
  refine ⟨after, hafter, ?_⟩
  filter_upwards [hconvey, hflush] with patience hrun hlast
  simp only [run_flush, Conveyor.flush, Push.map, Push.run_bind, hrun, hlast]
  rfl

/-- The stream is ended. -/
theorem finish_settles (hw : writer.logged.Relents received)
    (hwhole : (engine.finish running).whole = some (output, next)) (hgot : received world got) :
    ∃ after, received after (got ++ output) ∧
      Push.Settles writer.logged (fun patience => (beside running world.2).finish patience) world
        { beside next after.2 with ended := true } after := by
  obtain ⟨after, hafter, hconvey⟩ := Conveyor.convey_settles hw.toPersists false hwhole hgot
  refine ⟨after, hafter, hconvey.mono fun patience hrun => ?_⟩
  simp only [run_finish, Conveyor.finish, Push.map, Push.run_bind, hrun]
  rfl

/-- A call takes all it is given. -/
theorem perform_settles (hw : writer.logged.Relents received) {feed : Feed}
    (hwhole : (engine.feed running feed).whole = some (output, next)) (hgot : received world got) :
    ∃ after, received after (got ++ output) ∧ ∀ᶠ patience in Filter.atTop,
      (encoderOver engine patience).perform writer.logged (beside running world.2) world feed =
        (.ok feed.size, beside next after.2, after) := by
  cases feed with
  | piece data =>
    obtain ⟨after, hafter, hwrite⟩ := write_settles hw hwhole hgot
    refine ⟨after, hafter, hwrite.mono fun patience hrun => ?_⟩
    simp only [Encoder.perform, encoderOver, hrun, Feed.size]
  | flush =>
    obtain ⟨after, hafter, hflush⟩ := flush_settles hw hwhole hgot
    refine ⟨after, hafter, hflush.mono fun patience hrun => ?_⟩
    simp only [Encoder.perform, encoderOver, hrun, Feed.size]
    rfl

/-- Finalizing ends the stream and reports the first fault of all. -/
theorem finalize_settles (hw : writer.logged.Relents received) {rest : Bytes}
    (hrest : engine.encodeFrom running [.flush] = some rest) (hgot : received world got) :
    ∃ ended final, received final (got ++ rest) ∧ ∀ᶠ patience in Filter.atTop,
      ((beside running world.2).finalize patience).run writer.logged world =
        ((report (.ok ()) (remembered final.2), ended), final) := by
  obtain ⟨output, next, last, hflushed, hlast, rfl⟩ := Engine.encodeFrom_cons.mp hrest
  obtain ⟨done, hfinished⟩ := Engine.encodeFrom_nil.mp hlast
  obtain ⟨between, hbetween, hflush⟩ := flush_settles hw hflushed hgot
  obtain ⟨final, hfinal, hfinish⟩ := finish_settles hw hfinished hbetween
  rw [List.append_assoc] at hfinal
  refine ⟨{ beside done final.2 with ended := true }, final, hfinal, ?_⟩
  filter_upwards [hflush, hfinish] with patience hfirst hsecond
  have hopen : (beside running world.2).ended = false := rfl
  simp only [WriterState.finalize, hopen, Bool.false_eq_true, if_false, Push.run_bind, hfirst,
    Push.map, hsecond]
  rfl

/-- The calls of a script and the finalizing behind it come to an end, and every call takes all it
is given. What finalizing reports is the first fault of all. -/
theorem beside_settles (hw : writer.logged.Relents received) (script : List Feed)
    (world : W × Ledger) {rest : Bytes}
    (hrest : engine.encodeFrom running (script ++ [.flush]) = some rest)
    (hgot : received world got) :
    ∃ after last ended final, received final (got ++ rest) ∧ ∀ᶠ patience in Filter.atTop,
      (encoderOver engine patience).performAll writer.logged script (beside running world.2) world =
          (script.map fun feed => .ok feed.size, after, last) ∧
        ((encoderOver engine patience).finalize after).run writer.logged last =
          ((report (.ok ()) (remembered final.2), ended), final) := by
  induction script generalizing running rest world got with
  | nil =>
    obtain ⟨ended, final, hfinal, hrun⟩ := finalize_settles hw hrest hgot
    exact ⟨beside running world.2, world, ended, final, hfinal,
      hrun.mono fun patience hlast => ⟨rfl, hlast⟩⟩
  | cons feed later ih =>
    obtain ⟨output, next, others, hwhole, hothers, rfl⟩ := Engine.encodeFrom_cons.mp hrest
    obtain ⟨between, hbetween, hfirst⟩ := perform_settles hw hwhole hgot
    obtain ⟨after, last, ended, final, hfinal, hrun⟩ := ih between hothers hbetween
    rw [List.append_assoc] at hfinal
    refine ⟨after, last, ended, final, hfinal, ?_⟩
    filter_upwards [hfirst, hrun] with patience hperform hlater
    exact ⟨Encoder.performAll_cons hperform hlater.1, hlater.2⟩

end WriterState

/-! ### What finalizing tells -/

/-- If calls have all succeeded and the finalizing behind them succeeds too, the writer below had
refused nothing when it began. It has taken a first part of a stream that decodes to all that was
written, and that is the whole stream unless it has taken nothing of an offer while it was
finalized. -/
theorem finalized_stream_taken {engine : Engine} (hengine : engine.Encodes coding) (patience : Nat)
    (script : List Feed) (world : W) {answers : List (Except Fault Nat)}
    {after ended : WriterState engine.State} {last final : W × Ledger}
    (hcalls : (encoderOver engine patience).performAll writer.logged script
      { conveyor := { running := engine.start } } (world, {}) = (answers, after, last))
    (hok : ∀ answer ∈ answers, answer.isOk = true)
    (hfinal : ((encoderOver engine patience).finalize after).run writer.logged last =
      ((.ok (), ended), final)) :
    last.2.refused = false ∧ ∃ encoded,
      coding.toEnd coding.start encoded [] = some (Feed.content script) ∧
      final.2.taken <+: encoded ∧ (final.2.taken = encoded ↔ final.2.refused = false) := by
  obtain ⟨encoded, hstream, hdecodes⟩ := hengine.flushed script
  have hstart : (WriterState.beside engine.start {}).Owes ((world, {}) : W × Ledger).2
      (script ++ [.flush]) encoded := ⟨engine.start, encoded, rfl, rfl, hstream, rfl⟩
  have howes := hstart.performAll hcalls hok
  have hrefused : last.2.refused = false := by
    obtain ⟨_, _, _, hnone, _⟩ := howes
    exact hnone
  exact ⟨hrefused, encoded, hdecodes, howes.finalize hfinal⟩

/-- With an engine of this library, an array is left with the stream of three letters. -/
theorem finalized_stream_of_letters :
    let sink : EncoderStack 0 × Outlet (Array UInt8) := (.bottom, { sink := #[], attached := true })
    ∃ patience answers after ended last final,
      (encoder patience 22 4096).performAll (EncoderStack.writer 0).logged
          [.piece [104, 105], .flush, .piece [33]] (fresh patience 22 4096) (sink, {}) =
        (answers, after, last) ∧
      (∀ answer ∈ answers, answer.isOk = true) ∧
      ((encoder patience 22 4096).finalize after).run (EncoderStack.writer 0).logged last =
        ((.ok (), ended), final) ∧
      coding.toEnd coding.start final.1.2.sink.toList [] = some [104, 105, 33] := by
  intro sink
  have hengine : (engine 22 4096).Encodes coding :=
    engine_encodes (by decide) (by decide) (by decide)
  have hcollects := (EncoderStack.writer_collects collects_array).logged
  obtain ⟨whole, hstream, -⟩ := hengine.flushed [.piece [104, 105], .flush, .piece [33]]
  obtain ⟨after, last, ended, final, ⟨⟨-, hsink⟩, hledger⟩, hrun⟩ :=
    WriterState.beside_settles hcollects [.piece [104, 105], .flush, .piece [33]] (sink, {}) hstream
      ⟨⟨rfl, rfl⟩, rfl⟩
  rw [hledger] at hrun
  obtain ⟨patience, hcalls, hfinal⟩ := hrun.exists
  have hok : ∀ answer ∈ ([.piece [104, 105], .flush, .piece [33]] : List Feed).map
      fun feed => (.ok feed.size : Except Fault Nat), answer.isOk = true := by
    intro answer hmem
    obtain ⟨feed, -, rfl⟩ := List.mem_map.mp hmem
    rfl
  obtain ⟨-, encoded, hdecodes, -, hwhole⟩ :=
    finalized_stream_taken hengine patience _ sink hcalls hok hfinal
  have htaken : final.1.2.sink.toList = encoded := by
    rw [hsink, ← hwhole.mpr (by rw [hledger]), hledger]
  refine ⟨patience, _, after, ended, last, final, hcalls, hok, hfinal, ?_⟩
  rw [htaken]
  exact hdecodes

/-- A sink that takes the two bytes that are flushed, and then takes nothing, leaves the stream
without its end. Finalizing succeeds all the same. -/
theorem refused_end_reported_as_success :
    let sink : EncoderStack 0 × Outlet ScriptedSink :=
      (.bottom, { sink := { script := .takesInAll 2 none }, attached := true })
    let finalized :=
      ((encoder 8 22 4096).finalize (fresh 8 22 4096)).run (EncoderStack.writer 0) sink
    finalized.1.1 = .ok () ∧ finalized.2.2.sink.taken = #[0x6b, 0] ∧
      coding.toEnd coding.start [0x6b, 0] [] = none := by
  decide +kernel

/-- Over a writer that does no worse than to interrupt some calls, every call takes all it is given,
and after finalizing the writer holds a stream that decodes to all that was written. Finalizing
reports the first interruption there has ever been, and succeeds if there was none. -/
theorem interruptions_lose_nothing {engine : Engine} (hengine : engine.Encodes coding)
    {received : W → Bytes → Prop} (hw : writer.Relents received) {world : W}
    (hworld : received world []) (script : List Feed) :
    ∃ encoded after last verdict ended final,
      coding.toEnd coding.start encoded [] = some (Feed.content script) ∧
      (∀ᶠ patience in Filter.atTop,
        (encoderOver engine patience).performAll writer.logged script
            { conveyor := { running := engine.start } } (world, {}) =
          (script.map fun feed => .ok feed.size, after, last) ∧
        ((encoderOver engine patience).finalize after).run writer.logged last =
          ((verdict, ended), final)) ∧
      received final.1 encoded ∧
      verdict = match final.2.faults with
        | [] => .ok ()
        | fault :: _ => .error (.described .interrupted fault.message) := by
  obtain ⟨encoded, hstream, hdecodes⟩ := hengine.flushed script
  obtain ⟨after, last, ended, final, hfinal, hrun⟩ :=
    WriterState.beside_settles hw.logged script (world, {}) hstream
      ⟨hworld, rfl, fun _ hmem => absurd hmem List.not_mem_nil⟩
  refine ⟨encoded, after, last, _, ended, final, hdecodes, hrun, hfinal.1, ?_⟩
  obtain ⟨-, -, hinterrupted⟩ := hfinal
  obtain ⟨bottom, taken, refused, faults⟩ := final
  cases faults with
  | nil => rfl
  | cons fault faults =>
    have hkind : fault.kind = .interrupted := by
      have hfirst := hinterrupted fault List.mem_cons_self
      rwa [Fault.isInterruption, beq_iff_eq] at hfirst
    exact congrArg (fun kind => Except.error (Fault.described kind fault.message)) hkind

/-- With an engine of this library, a sink that interrupts its first two writes is left with the
stream of two letters. -/
theorem interruptions_lose_no_letter :
    let fault : Fault := .described .interrupted "again"
    let sink : EncoderStack 0 × Outlet ScriptedSink :=
      (.bottom, { sink := { script := .failsFirst 2 fault }, attached := true })
    ∃ after last verdict ended final,
      (∀ᶠ patience in Filter.atTop,
        (encoder patience 22 4096).performAll (EncoderStack.writer 0).logged
            [.piece [104, 105], .flush, .piece []] (fresh patience 22 4096) (sink, {}) =
          ([.ok 2, .ok 0, .ok 0], after, last) ∧
        ((encoder patience 22 4096).finalize after).run (EncoderStack.writer 0).logged last =
          ((verdict, ended), final)) ∧
      coding.toEnd coding.start final.1.2.sink.taken.toList [] = some [104, 105] := by
  intro fault sink
  have hengine : (engine 22 4096).Encodes coding :=
    engine_encodes (by decide) (by decide) (by decide)
  obtain ⟨encoded, after, last, verdict, ended, final, hdecodes, hrun, hreceived, -⟩ :=
    interruptions_lose_nothing hengine
      (ScriptedSink.relents (by rfl : fault.isInterruption = true))
      (⟨rfl, rfl, rfl⟩ : ScriptedSink.Interrupts 2 fault sink [])
      [.piece [104, 105], .flush, .piece []]
  refine ⟨after, last, verdict, ended, final, hrun, ?_⟩
  rw [hreceived.2.2]
  exact hdecodes

/-- A sink that interrupts one write relents, and is left with a whole stream. Finalizing fails all
the same. -/
theorem retried_interruption_reported_as_failure :
    let fault : Fault := .bare .interrupted
    let sink : EncoderStack 0 × Outlet ScriptedSink :=
      (.bottom, { sink := { script := .failsFirst 1 fault }, attached := true })
    let finalized :=
      ((encoder 8 22 4096).finalize (fresh 8 22 4096)).run (EncoderStack.writer 0) sink
    (EncoderStack.writer 0).Relents (ScriptedSink.Interrupts 1 fault) ∧
      finalized.1.1 = .error (.described .interrupted "operation interrupted") ∧
      finalized.2.2.sink.taken = #[0x6b, 0, 3] ∧
      coding.toEnd coding.start [0x6b, 0, 3] [] = some [] :=
  ⟨ScriptedSink.relents rfl, by decide +kernel⟩

end ContentCoding.Brotli
