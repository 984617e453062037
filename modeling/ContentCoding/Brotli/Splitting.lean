import ContentCoding.Amount
import ContentCoding.Brotli.Context
import ContentCoding.Brotli.Entropy
import ContentCoding.Brotli.Search

/-!
# Dividing elements into blocks

Symbols are gathered into a block until it has a certain size. Then the block gets a new
type of its own, or the type of one of the last two blocks, if its symbols are about as
frequent there. A block of the same type as the last one is joined to it, and when this
goes on, blocks are made larger.

Literals may be counted in two contexts, in which case each block type has two codes.
-/

namespace ContentCoding.Brotli

/-- How often each symbol occurs, in each context. -/
abbrev Counts := Array (Array Nat)

/-- Add counts up. -/
def Counts.add (first second : Counts) : Counts :=
  Array.zipWith (fun first second => Array.zipWith (· + ·) first second) first second

/-- A block. -/
structure BlockRun where
  /-- The type. -/
  type : Nat
  /-- The number of elements. -/
  length : Nat
  deriving Inhabited, Repr

/-- How a kind of element is divided into blocks. -/
structure SplitRule where
  /-- The number of symbols. -/
  alphabet : Nat
  /-- The number of contexts. -/
  contexts : Nat
  /-- The least size of a block. -/
  least : Nat
  /-- How much a type of its own has to save. -/
  threshold : Float

/-- One of the last two block types. -/
structure Candidate where
  /-- The type. -/
  type : Nat
  /-- The estimated sizes of its blocks, in each context. -/
  bits : Array Float
  deriving Inhabited

/-- A division that is being made. -/
structure Splitting where
  /-- The blocks, last one first. -/
  blocks : List BlockRun := []
  /-- The counts of each type. -/
  types : Array Counts := #[]
  /-- The type of the last block. -/
  last : Candidate := default
  /-- The type before it. -/
  before : Candidate := default
  /-- The counts of the present block. -/
  counts : Counts
  /-- The size of the present block. -/
  size : Nat := 0
  /-- The size at which it ends. -/
  target : Nat
  /-- How many blocks in a row were joined to the last one. -/
  joined : Nat := 0

namespace SplitRule

/-- Nothing has been counted. -/
def noCounts (rule : SplitRule) : Counts :=
  Array.replicate rule.contexts (Array.replicate rule.alphabet 0)

/-- A division before the first symbol. -/
def start (rule : SplitRule) : Splitting := { counts := rule.noCounts, target := rule.least }

/-- The most block types. -/
def maxTypes (rule : SplitRule) : Nat := 256 / rule.contexts

end SplitRule

namespace Splitting

/-- What it costs to give the present block a type: the bits of its blocks with it, and what
that is more than if the present block is by itself. -/
def costs (splitting : Splitting) (alone : Array Float) (candidate : Candidate) :
    Counts × Array Float × Float :=
  let together := splitting.counts.add (splitting.types.getD candidate.type #[])
  let bits := together.map estimatedBits
  let more := (List.range bits.size).foldl (fun more context =>
    more + (bits.getD context 0 - alone.getD context 0 - candidate.bits.getD context 0)) 0
  (together, bits, more)

/-- End the present block. -/
def endBlock (rule : SplitRule) (splitting : Splitting) : Splitting :=
  let size := max splitting.size rule.least
  let alone := splitting.counts.map estimatedBits
  match splitting.blocks with
  | [] =>
    let only : Candidate := ⟨0, alone⟩
    ⟨[⟨0, size⟩], #[splitting.counts], only, only, rule.noCounts, 0, splitting.target,
      splitting.joined⟩
  | latest :: earlier =>
    let (asLast, lastBits, lastMore) := splitting.costs alone splitting.last
    let (asBefore, beforeBits, beforeMore) := splitting.costs alone splitting.before
    let type := splitting.types.size
    if type < rule.maxTypes && rule.threshold < lastMore && rule.threshold < beforeMore then
      ⟨⟨type, size⟩ :: latest :: earlier, splitting.types.push splitting.counts, ⟨type, alone⟩,
        splitting.last, rule.noCounts, 0, rule.least, 0⟩
    else if beforeMore < lastMore - 20 then
      let type := splitting.before.type
      ⟨⟨type, size⟩ :: latest :: earlier, splitting.types.setIfInBounds type asBefore,
        ⟨type, beforeBits⟩, splitting.last, rule.noCounts, 0, rule.least, 0⟩
    else
      let last : Candidate := ⟨splitting.last.type, lastBits⟩
      ⟨⟨latest.type, latest.length + size⟩ :: earlier,
        splitting.types.setIfInBounds last.type asLast, last,
        if type = 1 then last else splitting.before, rule.noCounts, 0,
        if splitting.joined = 0 then splitting.target else splitting.target + rule.least,
        splitting.joined + 1⟩

/-- Count a symbol, and end the block if it has its size. -/
def count (rule : SplitRule) (context symbol : Nat) : Splitting → Splitting
  | ⟨blocks, types, last, before, counts, size, target, joined⟩ =>
    let counts := counts.modify context fun counts => counts.modify symbol (· + 1)
    let splitting : Splitting := ⟨blocks, types, last, before, counts, size + 1, target, joined⟩
    if size + 1 = target then splitting.endBlock rule else splitting

end Splitting

/-- Elements divided into blocks. -/
structure Divided where
  /-- The blocks. -/
  blocks : List BlockRun
  /-- The counts for each code: those of the contexts of each type. -/
  counts : Array (Array Nat)
  /-- The number of types. -/
  types : Nat

/-- End a division. -/
def Splitting.finish (rule : SplitRule) (splitting : Splitting) : Divided :=
  let splitting := splitting.endBlock rule
  ⟨splitting.blocks.reverse, splitting.types.flatMap id, splitting.types.size⟩

/-- The two contexts of literals: whether the last byte begins a letter of more than one
byte. -/
def lateContext (textContext : Nat) : Nat := if textContext = 2 || textContext = 3 then 1 else 0

/-- Of what kind a byte is: part of ASCII, a byte that goes on, or a byte that begins
a letter. -/
def byteKind (byte : UInt8) : Nat :=
  if byte < 128 then 0 else if byte < 192 then 1 else 2

/-- How often kinds of bytes follow one another in samples of 64 bytes, one from each 4096. -/
def kindPairs (data : Array UInt8) (start stop : Nat) : Array Nat :=
  let samples := (stop - start + 4096 - 64) / 4096
  (List.range samples).foldl (fun pairs sample =>
    (List.range' (start + 4096 * sample) 63).foldl (fun pairs place =>
      pairs.modify (3 * byteKind (data.getD place 0) + byteKind (data.getD (place + 1) 0)) (· + 1))
      pairs)
    (Array.replicate 9 0)

/-- Whether literals are counted in two contexts: that is so if it saves a fifth of a bit for
each of them. -/
def usesContexts (data : Array UInt8) (start stop : Nat) : Bool :=
  if stop - start < 64 then false
  else
    let pairs := kindPairs data start stop
    let count (index : Nat) : Nat := pairs.getD index 0
    let single := (List.range 3).map fun kind => count kind + count (kind + 3) + count (kind + 6)
    let usual := (List.range 3).map fun kind => count kind + count (kind + 6)
    let rare := (List.range 3).map fun kind => count (kind + 3)
    let each := 1 / Float.ofNat (sumOf single)
    let without := informationOf single * each
    let within := (informationOf usual + informationOf rare) * each
    !(without - within < 0.2)

end ContentCoding.Brotli
