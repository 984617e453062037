import ContentCoding.Bytes
import ContentCoding.Fault

/-!
# What a layer does to the writer below it

A layer on the encoding side answers each call by calling the writer it wraps.
`Push` is that behaviour as data: a finite tree of write and flush calls, each
branching on the answer. `Push.run` performs the calls against any `Writer`, so
one layer definition serves for a sink, for a stack of layers, and for proofs
that know nothing but how the writer answers.

`deliver` is the loop every layer needs: offer bytes until all are taken. It is
structural in a budget of attempts. The budget is the number of bytes plus a
`patience` for interruptions, so it runs out only after more interruptions than
that; then the delivery gives up as interrupted, and the caller may repeat it.
-/

namespace ContentCoding

universe u v w

/-- A finite exchange with the writer below, ending in a result. -/
inductive Push (α : Type u) : Type u
  /-- The exchange is over. -/
  | done (result : α)
  /-- Offer bytes. The answer is how many were taken, or a fault. -/
  | write (bytes : Bytes) (next : Except Fault Nat → Push α)
  /-- Ask the writer below to flush. -/
  | flush (next : Except Fault Unit → Push α)
  /-- Leave a line in the journal of the pipeline. -/
  | remark (text : String) (next : Push α)

/-- The calls that a `Push` can make, as functions of a changing world. -/
structure Writer (W : Type v) where
  /-- Offer bytes and learn how many were taken. -/
  write : W → Bytes → Except Fault Nat × W
  /-- Flush. -/
  flush : W → Except Fault Unit × W
  /-- Add a line to the journal. -/
  remark : W → String → W

namespace Push

variable {α : Type u} {β : Type w}

/-- Perform an exchange against a writer. -/
def run {W : Type v} (writer : Writer W) : Push α → W → α × W
  | .done result, world => (result, world)
  | .write bytes next, world =>
    let (answer, world) := writer.write world bytes
    run writer (next answer) world
  | .flush next, world =>
    let (answer, world) := writer.flush world
    run writer (next answer) world
  | .remark text next, world => run writer next (writer.remark world text)

/-- One exchange after another. -/
def bind (first : Push α) (second : α → Push β) : Push β :=
  match first with
  | .done result => second result
  | .write bytes next => .write bytes fun answer => (next answer).bind second
  | .flush next => .flush fun answer => (next answer).bind second
  | .remark text next => .remark text (next.bind second)

/-- Change the result of an exchange. -/
def map (f : α → β) (exchange : Push α) : Push β := exchange.bind fun result => .done (f result)

/-- Running one exchange after another is running both in turn. -/
theorem run_bind {W : Type v} (writer : Writer W) (first : Push α) (second : α → Push β)
    (world : W) :
    (first.bind second).run writer world =
      (second (first.run writer world).1).run writer (first.run writer world).2 := by
  induction first generalizing world with
  | done result => rfl
  | write bytes next ih => exact ih _ _
  | flush next ih => exact ih _ _
  | remark text next ih => exact ih _

/-- What is changed about the result of the second exchange may be changed behind both. -/
theorem map_bind {γ : Type v} (first : Push α) (second : α → Push β) (f : β → γ) :
    (first.bind second).map f = first.bind fun result => (second result).map f := by
  induction first with
  | done result => rfl
  | write bytes next ih => exact congrArg (Push.write bytes) (funext ih)
  | flush next ih => exact congrArg Push.flush (funext ih)
  | remark text next ih => exact congrArg (Push.remark text) ih

/-- How far a delivery got. -/
structure Delivery where
  /-- Success, or the fault that stopped the delivery. -/
  outcome : Except Fault Unit
  /-- The bytes that the writer below has not taken. -/
  undelivered : Bytes

/-- The two decisions in which deliveries differ. -/
structure DeliveryRule where
  /-- The fault reported when the writer below takes nothing. -/
  refusal : Fault
  /-- Whether an interrupted write is made again. -/
  retries : Bool

/-- Offer bytes until all are taken, for at most a given number of writes. -/
def deliverFor (rule : DeliveryRule) : (attempts : Nat) → Bytes → Push Delivery
  | _, [] => .done ⟨.ok (), []⟩
  | 0, bytes => .done ⟨.error (.bare .interrupted), bytes⟩
  | attempts + 1, bytes => .write bytes fun
    | .ok 0 => .done ⟨.error rule.refusal, bytes⟩
    | .ok taken => deliverFor rule attempts (bytes.drop taken)
    | .error fault =>
      if rule.retries && fault.isInterruption then deliverFor rule attempts bytes
      else .done ⟨.error fault, bytes⟩

/-- Offer bytes until all are taken, putting up with `patience` interruptions. -/
def deliver (rule : DeliveryRule) (patience : Nat) (bytes : Bytes) : Push Delivery :=
  deliverFor rule (bytes.length + patience) bytes

/-- The rule of a plain complete write: interruptions are retried, and a writer
that takes nothing is a failure. -/
def DeliveryRule.complete : DeliveryRule :=
  ⟨.described .writeZero "failed to write whole buffer", true⟩

/-- Write all of the bytes or report the fault that stopped it. -/
def writeAll (patience : Nat) (bytes : Bytes) : Push (Except Fault Unit) :=
  (deliver .complete patience bytes).map Delivery.outcome

/-- Flush, making interrupted calls again up to a budget. -/
def flushRetrying : (patience : Nat) → Push (Except Fault Unit)
  | 0 => .flush .done
  | patience + 1 => .flush fun
    | .ok () => .done (.ok ())
    | .error fault =>
      if fault.isInterruption then flushRetrying patience else .done (.error fault)

end Push

end ContentCoding
