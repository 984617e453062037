import ContentCoding.Proofs.Delivery
import ContentCoding.Proofs.Simulation

/-!
# What a writer has answered

A ledger stands beside a writer and keeps what the writer has answered so far: the
bytes that it has taken, the faults that it has reported, and whether it has ever taken nothing of
an offer. Nothing that calls the writer can tell that the ledger is there.

An exchange logs a condition if what it ends with and the ledger by then satisfy it, whatever the
answers are. Over a writer that relents, the faults of the ledger are interruptions, and no offer
has been taken none of.
-/

namespace ContentCoding

universe u v w

/-- What a writer has answered. -/
structure Ledger where
  /-- The bytes that it has taken. -/
  taken : Bytes := []
  /-- Whether it has taken nothing of an offer. -/
  refused : Bool := false
  /-- Its faults, in the order in which they came. -/
  faults : List Fault := []

namespace Ledger

/-- The ledger after the answer to an offer. -/
def offered (ledger : Ledger) (bytes : Bytes) : Except Fault Nat → Ledger
  | .ok 0 => { ledger with refused := true }
  | .ok taken => { ledger with taken := ledger.taken ++ bytes.take taken }
  | .error fault => { ledger with faults := ledger.faults ++ [fault] }

/-- The ledger after the answer to a flush. -/
def flushed (ledger : Ledger) : Except Fault Unit → Ledger
  | .ok () => ledger
  | .error fault => { ledger with faults := ledger.faults ++ [fault] }

variable (ledger : Ledger) (bytes : Bytes)

/-- Some bytes are added to those taken. -/
theorem offered_ok {taken : Nat} (h : 1 ≤ taken) :
    ledger.offered bytes (.ok taken) = { ledger with taken := ledger.taken ++ bytes.take taken } := by
  obtain ⟨count, rfl⟩ := Nat.exists_eq_add_of_le' h
  rfl

end Ledger

/-- A writer with a ledger beside it. -/
def Writer.logged {W : Type v} (writer : Writer W) : Writer (W × Ledger) where
  write
    | (world, ledger), bytes =>
      let (answer, world) := writer.write world bytes
      (answer, world, ledger.offered bytes answer)
  flush
    | (world, ledger) =>
      let (answer, world) := writer.flush world
      (answer, world, ledger.flushed answer)
  remark
    | (world, ledger), text => (writer.remark world text, ledger)

namespace Push

variable {α : Type u} {β : Type w}

/-- Whatever the exchange is answered, what it ends with satisfies a condition, together with the
ledger by then. -/
def Logs (post : α → Ledger → Prop) : Push α → Ledger → Prop
  | .done result, ledger => post result ledger
  | .write bytes next, ledger => ∀ answer, (next answer).Logs post (ledger.offered bytes answer)
  | .flush next, ledger => ∀ answer, (next answer).Logs post (ledger.flushed answer)
  | .remark _ next, ledger => next.Logs post ledger

variable {ledger : Ledger}

/-- A weaker condition is logged as well. -/
theorem Logs.mono {post other : α → Ledger → Prop} (hpost : ∀ result ledger,
    post result ledger → other result ledger) {push : Push α} (h : push.Logs post ledger) :
    push.Logs other ledger := by
  induction push generalizing ledger with
  | done result => exact hpost result ledger h
  | write bytes next ih => exact fun answer => ih answer (h answer)
  | flush next ih => exact fun answer => ih answer (h answer)
  | remark text next ih => exact ih h

/-- One exchange after another logs what the second does after the first. -/
theorem Logs.bind {post : β → Ledger → Prop} {first : Push α} {second : α → Push β}
    (h : first.Logs (fun result ledger => (second result).Logs post ledger) ledger) :
    (first.bind second).Logs post ledger := by
  induction first generalizing ledger with
  | done result => exact h
  | write bytes next ih => exact fun answer => ih answer (h answer)
  | flush next ih => exact fun answer => ih answer (h answer)
  | remark text next ih => exact ih h

/-- Changing the result of an exchange changes nothing else. -/
theorem Logs.map {post : β → Ledger → Prop} {push : Push α} {f : α → β}
    (h : push.Logs (fun result ledger => post (f result) ledger) ledger) :
    (push.map f).Logs post ledger := bind h

/-- What an exchange logs holds of its run. -/
theorem Logs.run {W : Type v} (writer : Writer W) {post : α → Ledger → Prop} {push : Push α}
    (h : push.Logs post ledger) (world : W) :
    post (push.run writer.logged (world, ledger)).1
      (push.run writer.logged (world, ledger)).2.2 := by
  induction push generalizing ledger world with
  | done result => exact h
  | write bytes next ih => exact ih _ (h _) _
  | flush next ih => exact ih _ (h _) _
  | remark text next ih => exact ih h _

end Push

namespace Ledger

/-- Nothing has gone wrong for good: no offer was taken none of, and every fault was an
interruption. -/
def Smooth (ledger : Ledger) : Prop :=
  ledger.refused = false ∧ ∀ fault ∈ ledger.faults, fault.isInterruption = true

/-- One interruption more is no harm. -/
theorem Smooth.interrupted {ledger : Ledger} (h : ledger.Smooth) {fault : Fault}
    (hfault : fault.isInterruption = true) :
    Smooth { ledger with faults := ledger.faults ++ [fault] } := by
  refine ⟨h.1, fun other hmem => ?_⟩
  obtain hearlier | hlast := List.mem_append.mp hmem
  · exact h.2 other hearlier
  · rwa [List.mem_singleton.mp hlast]

end Ledger

namespace Writer

variable {W : Type v} {writer : Writer W} {received : W → Bytes → Prop}

/-- Bytes have been received, and nothing has gone wrong for good. -/
def Smoothly (received : W → Bytes → Prop) (world : W × Ledger) (got : Bytes) : Prop :=
  received world.1 got ∧ world.2.Smooth

/-- What is taken in the end is taken with a ledger, and nothing goes wrong for good. -/
theorem EventuallyTakes.logged {data got : Bytes} {world : W}
    (h : writer.EventuallyTakes received data got world) {ledger : Ledger}
    (hsmooth : ledger.Smooth) :
    writer.logged.EventuallyTakes (Smoothly received) data got (world, ledger) := by
  induction h generalizing ledger with
  | @takes world after taken some fits answer receives =>
    have hanswer : writer.logged.write (world, ledger) data =
        (.ok taken, after, ledger.offered data (.ok taken)) := by
      simp only [Writer.logged, answer]
    refine .takes some fits hanswer ⟨receives, ?_⟩
    rw [ledger.offered_ok data some]
    exact hsmooth
  | @interrupted world after fault interruption answer again ih =>
    have hanswer : writer.logged.write (world, ledger) data =
        (.error fault, after, ledger.offered data (.error fault)) := by
      simp only [Writer.logged, answer]
    exact .interrupted interruption hanswer (ih (hsmooth.interrupted interruption))

/-- A flush that succeeds in the end does so with a ledger, and nothing goes wrong for good. -/
theorem EventuallyFlushes.logged {got : Bytes} {world : W}
    (h : writer.EventuallyFlushes received got world) {ledger : Ledger}
    (hsmooth : ledger.Smooth) :
    writer.logged.EventuallyFlushes (Smoothly received) got (world, ledger) := by
  induction h generalizing ledger with
  | @flushes world after answer receives =>
    have hanswer : writer.logged.flush (world, ledger) = (.ok (), after, ledger) := by
      simp only [Writer.logged, answer, Ledger.flushed]
    exact .flushes hanswer ⟨receives, hsmooth⟩
  | @interrupted world after fault interruption answer again ih =>
    have hanswer : writer.logged.flush (world, ledger) =
        (.error fault, after, ledger.flushed (.error fault)) := by
      simp only [Writer.logged, answer]
    exact .interrupted interruption hanswer (ih (hsmooth.interrupted interruption))

/-- With a ledger a writer that relents does so, and nothing goes wrong for good. -/
theorem Relents.logged (hw : writer.Relents received) :
    writer.logged.Relents (Smoothly received) := by
  refine ⟨⟨?_, ?_⟩, ?_⟩
  · intro world got data hdata h
    exact (hw.write world.1 got data hdata h.1).logged h.2
  · intro world got h
    have hafter := hw.flush world.1 got h.1
    refine ⟨hafter, ?_⟩
    cases hw.succeeds world.1 got h.1 with
    | flushes answer receives =>
      simp only [Writer.logged, answer, Ledger.flushed]
      exact h.2
    | interrupted interruption answer again =>
      simp only [Writer.logged, answer, Ledger.flushed]
      exact h.2.interrupted interruption
  · intro world got h
    exact (hw.succeeds world.1 got h.1).logged h.2

/-- With a ledger a writer that collects bytes relents, and the ledger keeps nothing else. -/
theorem Collects.logged (hw : writer.Collects received) :
    writer.logged.Relents fun world got => received world.1 got ∧ world.2 = { taken := got } := by
  refine ⟨⟨?_, ?_⟩, ?_⟩
  · rintro ⟨world, ledger⟩ got data hdata ⟨hgot, rfl⟩
    obtain ⟨taken, hsome, hle, hanswer, hafter⟩ := hw.write world got data hdata hgot
    refine .takes hsome hle (Prod.ext hanswer rfl) ⟨hafter, ?_⟩
    simp only [Writer.logged, hanswer]
    exact Ledger.offered_ok _ data hsome
  · rintro ⟨world, ledger⟩ got ⟨hgot, rfl⟩
    obtain ⟨hanswer, hafter⟩ := hw.flush world got hgot
    refine ⟨hafter, ?_⟩
    simp only [Writer.logged, hanswer, Ledger.flushed]
  · rintro ⟨world, ledger⟩ got ⟨hgot, rfl⟩
    obtain ⟨hanswer, hafter⟩ := hw.flush world got hgot
    refine .flushes (Prod.ext hanswer rfl) ⟨hafter, ?_⟩
    simp only [Writer.logged, hanswer, Ledger.flushed]

end Writer

end ContentCoding
