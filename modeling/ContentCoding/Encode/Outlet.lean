import ContentCoding.Stream.Endpoint
import ContentCoding.Stream.Push
import ContentCoding.Telemetry.Counters

/-!
# The bottom of an encoding stack

The outlet stands between a stack of layers and the caller's sink. While it is
detached it swallows writes and flushes, so nothing that happens during
construction or after a close can reach the sink. While it is attached it
passes calls on and counts the bytes that the sink takes.

The counters and the journal live here because the pipeline and the bottom of
its stack share them.
-/

namespace ContentCoding

/-- The caller's sink with everything that a pipeline keeps about it. -/
structure Outlet (σ : Type) where
  /-- The caller's sink. -/
  sink : σ
  /-- Whether writes and flushes reach the sink. -/
  attached : Bool := false
  /-- The pipeline's totals. -/
  counters : Counters := {}
  /-- Lines that layers left, oldest first. -/
  journal : Array String := #[]

namespace Outlet

variable {σ : Type} [Sink σ]

/-- Offer bytes to the sink and count what it takes. A detached outlet takes all
and keeps none. -/
def write (outlet : Outlet σ) (bytes : Bytes) : Except Fault Nat × Outlet σ :=
  if outlet.attached then
    match Sink.write outlet.sink bytes with
    | (.ok taken, sink) =>
      (.ok taken, { outlet with sink, counters := outlet.counters.addEncoded taken })
    | (.error fault, sink) => (.error fault, { outlet with sink })
  else (.ok bytes.length, outlet)

/-- Flush the sink. A detached outlet has nothing to flush. -/
def flush (outlet : Outlet σ) : Except Fault Unit × Outlet σ :=
  if outlet.attached then
    let (answer, sink) := Sink.flush outlet.sink
    (answer, { outlet with sink })
  else (.ok (), outlet)

/-- Count the plaintext that a write on the pipeline has taken. -/
def credit (outlet : Outlet σ) : Except Fault Nat → Outlet σ
  | .ok taken => { outlet with counters := outlet.counters.addPlaintext taken }
  | .error _ => outlet

/-- Add a line to the journal. -/
def remark (outlet : Outlet σ) (text : String) : Outlet σ :=
  { outlet with journal := outlet.journal.push text }

end Outlet

end ContentCoding
