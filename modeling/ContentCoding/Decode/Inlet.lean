import ContentCoding.Stream.Endpoint
import ContentCoding.Stream.Pull
import ContentCoding.Telemetry.Counters

/-!
# The bottom of a decoding stack

The inlet stands between the caller's source and a stack of layers, and counts
the bytes that the source hands out.
-/

namespace ContentCoding

/-- The caller's source with everything that a pipeline keeps about it. -/
structure Inlet (σ : Type) where
  /-- The caller's source. -/
  source : σ
  /-- The pipeline's totals. -/
  counters : Counters := {}
  /-- Lines that layers left, oldest first. -/
  journal : Array String := #[]

namespace Inlet

variable {σ : Type} [Source σ]

/-- Read from the source and count what it hands out. -/
def read (inlet : Inlet σ) (room : Nat) : Except Fault Bytes × Inlet σ :=
  match Source.read inlet.source room with
  | (.ok bytes, source) =>
    (.ok bytes, { inlet with source, counters := inlet.counters.addEncoded bytes.length })
  | (.error fault, source) => (.error fault, { inlet with source })

/-- Count the plaintext that a read on the pipeline has given. -/
def credit (inlet : Inlet σ) : Except Fault Bytes → Inlet σ
  | .ok bytes => { inlet with counters := inlet.counters.addPlaintext bytes.length }
  | .error _ => inlet

/-- Add a line to the journal. -/
def remark (inlet : Inlet σ) (text : String) : Inlet σ :=
  { inlet with journal := inlet.journal.push text }

end Inlet

end ContentCoding
