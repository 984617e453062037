/-!
# Byte counters of a pipeline

Plaintext is counted at the pipeline's own surface and encoded bytes where they
cross the caller's stream. Both totals wrap at 2^64. A `Snapshot` is the
immutable view of the counters, with the ratio of the two totals.
-/

namespace ContentCoding

/-- Totals kept while a pipeline runs. -/
structure Counters where
  /-- Bytes accepted from, or handed to, the caller as plaintext. -/
  plaintext : UInt64 := 0
  /-- Bytes taken by the caller's sink, or handed out by the caller's source. -/
  encoded : UInt64 := 0
  /-- Number of layers of the chain, zero until it is built. -/
  layers : UInt64 := 0
  deriving DecidableEq, Repr, Inhabited

/-- An immutable view of a pipeline's counters. -/
structure Snapshot where
  /-- Plaintext bytes so far. -/
  plaintext : UInt64
  /-- Encoded bytes so far. -/
  encoded : UInt64
  /-- Number of layers. -/
  layers : UInt64
  /-- Encoded bytes per plaintext byte. -/
  ratio : Float
  deriving Repr, Inhabited

/-- The view of three totals. The ratio is zero before any plaintext and is not
clamped, since a stack of codings can enlarge a small input. -/
def Snapshot.ofTotals (plaintext encoded layers : UInt64) : Snapshot :=
  ⟨plaintext, encoded, layers,
    if plaintext = 0 then 0 else encoded.toFloat / plaintext.toFloat⟩

namespace Counters

/-- Count plaintext bytes. -/
def addPlaintext (counters : Counters) (count : Nat) : Counters :=
  { counters with plaintext := counters.plaintext + UInt64.ofNat count }

/-- Count encoded bytes. -/
def addEncoded (counters : Counters) (count : Nat) : Counters :=
  { counters with encoded := counters.encoded + UInt64.ofNat count }

/-- Record the length of the chain. -/
def setLayers (counters : Counters) (layers : Nat) : Counters :=
  { counters with layers := UInt64.ofNat layers }

/-- The counters as they stand. -/
def snapshot (counters : Counters) : Snapshot :=
  .ofTotals counters.plaintext counters.encoded counters.layers

end Counters

end ContentCoding
