import ContentCoding.Amount
import ContentCoding.Zstd.Fse

/-!
# Prefix codes of literals

A code is given by weights: a symbol of weight `w` takes `2 ^ (w - 1)` parts of a
power of two, and the weight of the last symbol is what is missing to the next
one. The weights are given as they are, or in a finite state code.
-/

namespace ContentCoding.Zstd

/-- One entry of a prefix code. -/
structure PrefixCell where
  /-- The symbol. -/
  symbol : UInt8
  /-- The length of its word. -/
  bits : Nat
  deriving Inhabited

/-- A prefix code, by the bits that the longest word would take. -/
structure PrefixTable where
  /-- The length of the longest word. -/
  log : Nat
  /-- The entries. -/
  cells : Array PrefixCell
  /-- Whether words are looked up in pairs. -/
  paired : Bool := false

namespace PrefixTable

/-- The longest word there can be. -/
def maxLog : Nat := 12

/-- The parts that a weight stands for. -/
def parts (weight : Nat) : Nat := twoTo weight / 2

/-- The entries of a code, rarest symbols first. -/
def cellsOf (log : Nat) (weights : List Nat) : List PrefixCell :=
  let symbols := weights.zipIdx
  (List.range' 1 log).flatMap fun weight =>
    (symbols.filter fun entry => entry.1 = weight).flatMap fun entry =>
      List.replicate (parts weight) ⟨UInt8.ofNat entry.2, log + 1 - weight⟩

/-- The code with given weights, to which that of the last symbol is added. -/
def ofWeights (weights : List Nat) : Except Damage PrefixTable :=
  let total := sumOf (weights.map parts)
  if total = 0 || weights.any (maxLog < ·) then .error .data
  else
    let log := total.log2 + 1
    let missing := twoTo log - total
    let ones := (weights.filter (· = 1)).length + if missing = 1 then 1 else 0
    if maxLog < log || twoTo missing.log2 ≠ missing || ones < 2 || ones % 2 = 1 then .error .data
    else .ok { log, cells := (cellsOf log (weights ++ [missing.log2 + 1])).toArray }

/-- Weights of four bits each, the first one in the high bits of a byte. -/
def nibbles (bytes : Bytes) : List Nat :=
  bytes.flatMap fun byte => [byte.toNat / 16, byte.toNat % 16]

/-- Decode with two states in turn until the bits are used up. The state whose turn it
is comes first. The weights so far are passed along, last one first. -/
def alternate (table : Fse.Table) : (steps : Nat) → (state other : Nat) → BitStack → List Nat →
    Except Damage (List Nat)
  | 0, _, _, _, _ => .error .data
  | steps + 1, state, other, stack, weights =>
    let cell := table.cells.getD state default
    let weights := cell.symbol :: weights
    match stack.pop? cell.bits with
    | some (offset, stack) => alternate table steps other (cell.base + offset) stack weights
    | none => .ok ((table.cells.getD other default).symbol :: weights).reverse

/-- Weights in a finite state code. -/
def codedWeights (bytes : Bytes) : Except Damage (List Nat) := do
  let (shares, rest) ← Fse.readShares 6 256 bytes
  let table := Fse.tableOf shares
  match BitStack.ofBytes? rest with
  | none => .error .data
  | some stack =>
    match stack.pop? table.log with
    | none => .error .data
    | some (state, stack) =>
      match stack.pop? table.log with
      | none => .error .data
      | some (other, stack) => alternate table 254 state other stack []

/-- Read a code from the front of bytes, and leave the bytes after it. -/
def read : Bytes → Except Damage (PrefixTable × Bytes)
  | [] => .error .data
  | first :: rest => do
    let first := first.toNat
    if 128 ≤ first then
      let count := first - 127
      let size := (count + 1) / 2
      if rest.length < size then .error .data
      else
        let table ← ofWeights ((nibbles (rest.take size)).take count)
        return (table, rest.drop size)
    else if first = 0 || rest.length < first then .error .data
    else
      let weights ← codedWeights (rest.take first)
      let table ← ofWeights weights
      return (table, rest.drop first)

end PrefixTable

end ContentCoding.Zstd
