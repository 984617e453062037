import ContentCoding.Amount
import ContentCoding.Span
import ContentCoding.Zstd.Fse

/-!
# Sequences of a block

A sequence takes some literals and then copies earlier output. Its three numbers,
the count of literals, the offset and the length of the copy, each have a finite
state code whose symbols stand for ranges. A code is a predefined one, a single
symbol, a code that the block gives, or the one used in the block before.

Small offset values name one of the last three offsets.
-/

namespace ContentCoding.Zstd

/-- What one of the three codes may look like. -/
structure CodeKind where
  /-- The size of a given code is at most two to this power. -/
  maxLog : Nat
  /-- What the symbols stand for. -/
  spans : Array Span
  /-- The predefined code. -/
  predefined : Fse.Table

namespace CodeKind

/-- Counts of literals. -/
def literalLengths : CodeKind where
  maxLog := 9
  spans :=
    (Span.seriesFrom 0
      (List.replicate 16 0 ++ [1, 1, 1, 1, 2, 2, 3, 3, 4, 6] ++ List.range' 7 10)).toArray
  predefined := Fse.tableOf ⟨6,
    [4, 3, 2, 2, 2, 2, 2, 2, 2, 2, 2, 2, 2, 1, 1, 1, 2, 2, 2, 2, 2, 2, 2, 2, 2, 3, 2, 1, 1, 1, 1,
      1, -1, -1, -1, -1]⟩

/-- Offset values. -/
def offsets : CodeKind where
  maxLog := 8
  spans := ((List.range 32).map fun bits => ⟨twoTo bits, bits⟩).toArray
  predefined := Fse.tableOf ⟨5,
    [1, 1, 1, 1, 1, 1, 2, 2, 2, 1, 1, 1, 1, 1, 1, 1, 1, 1, 1, 1, 1, 1, 1, 1, -1, -1, -1, -1, -1]⟩

/-- Lengths of copies. -/
def matchLengths : CodeKind where
  maxLog := 9
  spans :=
    (Span.seriesFrom 3
      (List.replicate 32 0 ++ [1, 1, 1, 1, 2, 2, 3, 3, 4, 4, 5] ++ List.range' 7 10)).toArray
  predefined := Fse.tableOf ⟨6,
    [1, 4, 3, 2, 2, 2, 2, 2, 2, 1, 1, 1, 1, 1, 1, 1, 1, 1, 1, 1, 1, 1, 1, 1, 1, 1, 1, 1, 1, 1, 1,
      1, 1, 1, 1, 1, 1, 1, 1, 1, 1, 1, 1, 1, 1, 1, -1, -1, -1, -1, -1, -1, -1]⟩

/-- Read a code given in one of four ways, and leave the bytes after it. -/
def read (kind : CodeKind) (way : Nat) (before : Option Fse.Table) (bytes : Bytes) :
    Except Damage (Fse.Table × Bytes) :=
  if way = 0 then .ok (kind.predefined, bytes)
  else if way = 1 then
    match bytes with
    | [] => .error .data
    | symbol :: rest =>
      if symbol.toNat < kind.spans.size then .ok (Fse.constant symbol.toNat, rest)
      else .error .data
  else if way = 2 then do
    let (shares, rest) ← Fse.readShares kind.maxLog kind.spans.size bytes
    return (Fse.tableOf shares, rest)
  else
    match before with
    | some table => .ok (table, bytes)
    | none => .error .data

end CodeKind

/-- The codes of a block. -/
structure SequenceTables where
  /-- The code of counts of literals. -/
  literalLengths : Fse.Table
  /-- The code of offset values. -/
  offsets : Fse.Table
  /-- The code of lengths of copies. -/
  matchLengths : Fse.Table

/-- The latest three offsets, the last one first. -/
structure Offsets where
  /-- The last offset. -/
  first : Nat := 1
  /-- The one before. -/
  second : Nat := 4
  /-- The one before that. -/
  third : Nat := 8

/-- The offset that a value stands for, and the latest offsets after it. Values up to
three name latest offsets, shifted by one if there are no literals. -/
def Offsets.resolve (offsets : Offsets) (value : Nat) (noLiterals : Bool) : Nat × Offsets :=
  match offsets with
  | ⟨first, second, third⟩ =>
    if 3 < value then (value - 3, ⟨value - 3, first, second⟩)
    else
      match if noLiterals then value + 1 else value with
      | 1 => (first, ⟨first, second, third⟩)
      | 2 => (second, ⟨second, first, third⟩)
      | 3 => (third, ⟨third, first, second⟩)
      | _ => (first - 1, ⟨first - 1, first, second⟩)

/-- One sequence. -/
structure Sequence where
  /-- The number of literals. -/
  literals : Nat
  /-- How far back the copy starts. -/
  offset : Nat
  /-- The length of the copy. -/
  length : Nat
  deriving Repr

namespace Sequence

/-- Where decoding stands: a state in each code, and the bits. -/
structure States where
  /-- The state of the counts of literals. -/
  literalLength : Nat
  /-- The state of the offset values. -/
  offset : Nat
  /-- The state of the lengths of copies. -/
  matchLength : Nat
  /-- The bits that are left. -/
  stack : BitStack

/-- The first states. -/
def States.start (tables : SequenceTables) (stack : BitStack) : States :=
  let literals := tables.literalLengths.log
  let offsets := tables.offsets.log
  let copies := tables.matchLengths.log
  { literalLength := stack.peekState literals
    offset := (stack.drop literals).peekState offsets
    matchLength := (stack.drop (literals + offsets)).peekState copies
    stack := stack.drop (literals + offsets + copies) }

/-- The value that a symbol stands for, and the bits after it. -/
def valueOf (kind : CodeKind) (symbol : Nat) (stack : BitStack) : Nat × BitStack :=
  let span := kind.spans.getD symbol default
  if span.bits = 0 then (span.least, stack)
  else (span.least + stack.peek span.bits, stack.drop span.bits)

/-- The sequence that states and bits stand for, with the bits after it. -/
def ofStates (tables : SequenceTables) (states : States) (offsets : Offsets) :
    Sequence × BitStack × Offsets :=
  let literalCell := tables.literalLengths.cells.getD states.literalLength default
  let offsetCell := tables.offsets.cells.getD states.offset default
  let matchCell := tables.matchLengths.cells.getD states.matchLength default
  let (value, stack) := valueOf .offsets offsetCell.symbol states.stack
  let (length, stack) := valueOf .matchLengths matchCell.symbol stack
  let (literals, stack) := valueOf .literalLengths literalCell.symbol stack
  let (offset, offsets) := offsets.resolve value (literals = 0)
  (⟨literals, offset, length⟩, stack, offsets)

/-- The next states. -/
def States.next (tables : SequenceTables) (states : States) (stack : BitStack) : States :=
  let literalCell := tables.literalLengths.cells.getD states.literalLength default
  let offsetCell := tables.offsets.cells.getD states.offset default
  let matchCell := tables.matchLengths.cells.getD states.matchLength default
  let later := stack.drop literalCell.bits
  let last := later.drop matchCell.bits
  { literalLength := literalCell.base + stack.peekState literalCell.bits
    matchLength := matchCell.base + later.peekState matchCell.bits
    offset := offsetCell.base + last.peekState offsetCell.bits
    stack := last.drop offsetCell.bits }

/-- Decode so many sequences. Those so far are passed along, last one first. The offsets
after them are given if they use up the bits. -/
def readFrom (tables : SequenceTables) : (count : Nat) → States → Offsets → List Sequence →
    List Sequence × Except Damage Offsets
  | 0, states, offsets, sequences =>
    (sequences.reverse, if states.stack.left = 0 then .ok offsets else .error .data)
  | count + 1, states, offsets, sequences =>
    let (sequence, stack, offsets) := ofStates tables states offsets
    let states := if count = 0 then { states with stack } else states.next tables stack
    readFrom tables count states offsets (sequence :: sequences)

/-- The number of sequences at the front of bytes, and the bytes after it. -/
def readCount : Bytes → Except Damage (Nat × Bytes)
  | [] => .error .size
  | first :: rest =>
    if first.toNat < 128 then .ok (first.toNat, rest)
    else if first.toNat < 255 then
      match rest with
      | second :: rest => .ok ((first.toNat - 128) * 256 + second.toNat, rest)
      | [] => .error .size
    else
      match rest with
      | second :: third :: rest =>
        .ok (second.toNat + third.toNat * 256 + 32512, rest)
      | _ => .error .size

/-- Read what comes before the bits of sequences: how many there are, and, unless there are
none, their codes. -/
def readTables (before : Option SequenceTables) (bytes : Bytes) :
    Except Damage (Nat × Option SequenceTables × Bytes) := do
  let (count, rest) ← readCount bytes
  if count = 0 then
    if rest.isEmpty then return (0, before, []) else .error .data
  else
    match rest with
    | [] => .error .size
    | ways :: rest =>
      let ways := ways.toNat
      if ways % 4 ≠ 0 then .error .data
      else
        let (literalLengths, rest) ←
          CodeKind.literalLengths.read (ways / 64) (before.map (·.literalLengths)) rest
        let (offsets, rest) ←
          CodeKind.offsets.read (ways / 16 % 4) (before.map (·.offsets)) rest
        let (matchLengths, rest) ←
          CodeKind.matchLengths.read (ways / 4 % 4) (before.map (·.matchLengths)) rest
        return (count, some ⟨literalLengths, offsets, matchLengths⟩, rest)

/-- Decode so many sequences from the bits at the end of a block. -/
def decode (tables : SequenceTables) (count : Nat) (offsets : Offsets) (bytes : Bytes) :
    List Sequence × Except Damage Offsets :=
  match BitStack.ofBytes? bytes with
  | none => ([], .error .data)
  | some stack => readFrom tables count (States.start tables stack) offsets []

end Sequence

end ContentCoding.Zstd
