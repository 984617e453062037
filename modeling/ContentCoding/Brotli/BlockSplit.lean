import ContentCoding.Amount
import ContentCoding.Brotli.Context
import ContentCoding.Brotli.PrefixCode
import ContentCoding.Span

/-!
# Block types and context maps

Literals, commands and distances of a meta-block are divided into blocks, separately.
A block has a type, which together with a context selects one of several codes. Types
and lengths of blocks have codes of their own.
-/

namespace ContentCoding.Brotli

open Huffman

/-- A number from 1 to 256. -/
def smallCount : Scan Nat := do
  if (← Scan.bits 1) = 0 then return 1
  let bits ← Scan.bits 3
  return 1 + twoTo bits + (← Scan.bits bits)

/-- A value in one of several ranges. -/
def valueIn (spans : Array Span) (index : Nat) : Scan Nat :=
  match spans[index]? with
  | some span => span.read
  | none => .fail invalid

/-- The ranges of block lengths. -/
def blockLengthSpans : Array Span :=
  (Span.seriesFrom 1
    [2, 2, 2, 2, 3, 3, 3, 3, 4, 4, 4, 4, 5, 5, 5, 5, 6, 6, 7, 8, 9, 10, 11, 12, 13, 24]).toArray

/-- How a kind of element is divided into blocks, and where the present block stands. -/
structure BlockSplit where
  /-- The number of block types. -/
  types : Nat := 1
  /-- The code for types. -/
  typeCode : Tree := .missing
  /-- The code for lengths. -/
  lengthCode : Tree := .missing
  /-- The type of the present block. -/
  current : Nat := 0
  /-- The type of the block before it. -/
  previous : Nat := 1
  /-- How many elements of the present block are left. -/
  left : Nat := 0

namespace BlockSplit

/-- The length of a block. -/
def readLength (code : Tree) : Scan Nat := do
  valueIn blockLengthSpans (← code.symbol invalid)

/-- Read a division into blocks. A single type has one block without an end. -/
def read : Scan BlockSplit := do
  let types ← smallCount
  if types = 1 then return {}
  let typeCode ← givenCode { size := types + 2 }
  let lengthCode ← givenCode { size := 26 }
  let left ← readLength lengthCode
  return { types, typeCode, lengthCode, left }

/-- Begin the next block. Its type is the one before the last, the one that follows
the last, or any. -/
def switch (split : BlockSplit) : Scan BlockSplit := do
  let symbol ← split.typeCode.symbol invalid
  let left ← readLength split.lengthCode
  let type :=
    if symbol = 0 then split.previous
    else if symbol = 1 then (split.current + 1) % split.types
    else symbol - 2
  return { split with current := type % split.types, previous := split.current, left }

/-- Go on to the next element. -/
def next (split : BlockSplit) : Scan BlockSplit :=
  if split.types = 1 then .done split
  else do
    let split ← if split.left = 0 then split.switch else pure split
    return { split with left := split.left - 1 }

end BlockSplit

/-- Read entries of a context map, with so many steps to go. The least symbols stand for
runs of zeros. Entries read so far are passed along, last one first, with their number. -/
def mapEntries (code : Tree) (runs size : Nat) :
    (steps : Nat) → (count : Nat) → List Nat → Scan (List Nat)
  | 0, _, entries => .done entries.reverse
  | steps + 1, count, entries =>
    if size ≤ count then .done entries.reverse
    else
      (code.symbol invalid).bind fun symbol =>
        if runs < symbol then
          mapEntries code runs size steps (count + 1) ((symbol - runs) :: entries)
        else
          (Scan.bits symbol).bind fun more =>
            let zeros := twoTo symbol + more
            mapEntries code runs size steps (count + zeros) (List.replicate zeros 0 ++ entries)

/-- Undo a move to the front: each number says how far back the value was in the list of
values in the order of their last use. -/
def fromRecency : (values : List Nat) → List Nat → List Nat
  | _, [] => []
  | values, place :: rest =>
    let value := values.getD place 0
    value :: fromRecency (value :: values.eraseIdx place) rest

/-- Which codes a meta-block has for one kind of element, and how they are selected. -/
structure ContextMap where
  /-- The number of codes. -/
  codes : Nat
  /-- Which code belongs to each type and context. -/
  entries : Array Nat

/-- Read a context map of a given size. -/
def ContextMap.read (size : Nat) : Scan ContextMap := do
  let codes ← smallCount
  if codes = 1 then return ⟨1, #[]⟩
  let runs ← if (← Scan.bits 1) = 1 then (· + 1) <$> Scan.bits 4 else pure 0
  let code ← givenCode { size := codes + runs }
  let entries ← mapEntries code runs size size 0 []
  Scan.require (entries.length = size) invalid
  let entries :=
    if (← Scan.bits 1) = 1 then fromRecency (List.range 256) entries else entries
  return ⟨codes, entries.toArray⟩

/-- The code for a place in the map. -/
def ContextMap.select (map : ContextMap) (trees : Array Tree) (place : Nat) : Tree :=
  trees.getD (map.entries.getD place 0) .missing

end ContentCoding.Brotli
