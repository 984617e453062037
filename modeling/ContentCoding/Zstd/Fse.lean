import ContentCoding.Amount
import ContentCoding.Zstd.BitStack
import ContentCoding.Zstd.Damage

/-!
# Finite state entropy codes

A code is a table of cells. A state is the index of a cell, which names a symbol
and tells how to reach the next state: read some bits and add them to a base. A
symbol has about as many cells as its share of a power of two says, and symbols
that are rarer than one part have a single cell at the end of the table.
-/

namespace ContentCoding.Zstd.Fse

/-- The shares of symbols in a table. A share of none but one cell at the end of
the table is written -1. -/
structure Shares where
  /-- The size of the table is two to this power. -/
  log : Nat
  /-- The shares by symbol. -/
  counts : List Int

/-- One state of a code. -/
structure Cell where
  /-- The symbol of the state. -/
  symbol : Nat
  /-- How many bits lead to the next state. -/
  bits : Nat
  /-- The least next state. -/
  base : Nat
  deriving Inhabited, Repr

/-- A code. -/
structure Table where
  /-- The size is two to this power. -/
  log : Nat
  /-- The states. -/
  cells : Array Cell

/-- The number of cells that a share takes. -/
def cellCount (share : Int) : Nat := if share < 0 then 1 else share.toNat

/-- Put symbols with single cells at the end of the table, from the last cell down.
The result also holds the number of cells in front of them. -/
def placeRare : List (Int × Nat) → (free : Nat) → Array Nat → Array Nat × Nat
  | [], free, places => (places, free)
  | (share, symbol) :: rest, free, places =>
    if share < 0 then placeRare rest (free - 1) (places.set! (free - 1) symbol)
    else placeRare rest free places

/-- The next position in front of the single cells, within so many steps. -/
def nextPosition (size free : Nat) : (steps : Nat) → (position : Nat) → Nat
  | 0, position => position
  | steps + 1, position =>
    let position := (position + size / 2 + size / 8 + 3) % size
    if position < free then position else nextPosition size free steps position

/-- Put a symbol into so many cells. -/
def placeSymbol (size free symbol : Nat) : (count : Nat) → (position : Nat) → Array Nat →
    Array Nat × Nat
  | 0, position, places => (places, position)
  | count + 1, position, places =>
    placeSymbol size free symbol count (nextPosition size free size position)
      (places.set! position symbol)

/-- Put the symbols into the cells in front of the single ones, at regular steps. -/
def placeCommon (size free : Nat) : List (Int × Nat) → (position : Nat) → Array Nat → Array Nat
  | [], _, places => places
  | (share, symbol) :: rest, position, places =>
    let (places, position) := placeSymbol size free symbol share.toNat position places
    placeCommon size free rest position places

/-- The symbol of each cell. -/
def places (shares : Shares) : Array Nat :=
  let size := twoTo shares.log
  let symbols := shares.counts.zipIdx
  let (places, free) := placeRare symbols size (Array.replicate size 0)
  placeCommon size free symbols 0 places

/-- Cells for the symbols of cells, given the number that each symbol counts on from. -/
def cellsOf (log : Nat) : List Nat → (next : Array Nat) → List Cell
  | [], _ => []
  | symbol :: rest, next =>
    let count := next.getD symbol 1
    let bits := log - count.log2
    ⟨symbol, bits, count * twoTo bits - twoTo log⟩ :: cellsOf log rest (next.set! symbol (count + 1))

/-- The code with given shares. -/
def tableOf (shares : Shares) : Table :=
  ⟨shares.log,
    (cellsOf shares.log (places shares).toList (shares.counts.map cellCount).toArray).toArray⟩

/-- The code of a single symbol, which takes no bits. -/
def constant (symbol : Nat) : Table := ⟨0, #[⟨symbol, 0, 0⟩]⟩

/-- The bits of bytes, to be read from the first one up. -/
structure BitQueue where
  /-- The bytes that hold them. -/
  bytes : Array UInt8
  /-- How many bits have been read. -/
  read : Nat := 0

/-- The number that the next bits spell, with zeros past the end. -/
def BitQueue.peek (queue : BitQueue) : (count : Nat) → Nat
  | 0 => 0
  | count + 1 =>
    let position := queue.read + count
    queue.peek count +
      (queue.bytes.getD (position / 8) 0).toNat / twoTo (position % 8) % 2 * twoTo count

/-- Pass over bits. -/
def BitQueue.skip (queue : BitQueue) (count : Nat) : BitQueue :=
  { queue with read := queue.read + count }

/-- Count symbols without a share, which are given in groups of up to three. -/
def zeroRun : (groups : Nat) → BitQueue → (count : Nat) → Nat × BitQueue
  | 0, queue, count => (count, queue)
  | groups + 1, queue, count =>
    let more := queue.peek 2
    let queue := queue.skip 2
    if more = 3 then zeroRun groups queue (count + 3) else (count + more, queue)

/-- Take one share, of which so much is left to give. Small values take a bit less. -/
def takeShare (remaining : Nat) (queue : BitQueue) : Int × BitQueue :=
  let width := (remaining + 1).log2 + 1
  let short := twoTo width - 2 - remaining
  let low := queue.peek (width - 1)
  if low < short then ((low : Int) - 1, queue.skip (width - 1))
  else
    let value := queue.peek width
    let value := if twoTo (width - 1) ≤ value then value - short else value
    ((value : Int) - 1, queue.skip width)

/-- Read shares until they fill the table, for at most so many symbols. Those read so
far are passed along, last one first. -/
def sharesFor (maxSymbols : Nat) : (steps : Nat) → (remaining : Nat) → BitQueue → List Int →
    Option (List Int × BitQueue)
  | 0, _, _, _ => none
  | steps + 1, remaining, queue, counts =>
    if remaining = 0 then
      if counts.length ≤ maxSymbols then some (counts.reverse, queue) else none
    else if maxSymbols ≤ counts.length then none
    else
      let (share, queue) := takeShare remaining queue
      let counts := share :: counts
      if share = 0 then
        let (zeros, queue) := zeroRun maxSymbols queue 0
        sharesFor maxSymbols steps remaining queue (List.replicate zeros 0 ++ counts)
      else
        sharesFor maxSymbols steps (remaining - cellCount share) queue counts

/-- Read shares from the front of bytes, and leave the bytes after them. -/
def readShares (maxLog maxSymbols : Nat) (bytes : Bytes) : Except Damage (Shares × Bytes) :=
  let queue : BitQueue := ⟨bytes.toArray, 0⟩
  let log := queue.peek 4 + 5
  if maxLog < log then .error .data
  else
    match sharesFor maxSymbols (maxSymbols + 2) (twoTo log) (queue.skip 4) [] with
    | none => .error .data
    | some (counts, queue) =>
      let used := (queue.read + 7) / 8
      if used ≤ bytes.length then .ok (⟨log, counts⟩, bytes.drop used) else .error .data

end ContentCoding.Zstd.Fse
