import ContentCoding.Deflate.Search

/-!
# Dividing data into literals and copies

Data is gone through once. A copy of fewer than 128 bytes may be put off for one byte,
and is dropped if there is a longer one then. The tokens are divided into blocks, so
that a block stays within the space for its codes, and ends where data has turned out
to be too dense.
-/

namespace ContentCoding.Deflate

/-- A literal or a copy. -/
inductive Token
  /-- One byte as it is. -/
  | literal (byte : UInt8)
  /-- A copy of earlier data. -/
  | copy (copy : Copy)

/-- The tokens of a block. -/
structure Batch where
  /-- The tokens, last one first. -/
  tokens : List Token := []
  /-- How many there are. -/
  count : Nat := 0
  /-- How much space they take: a byte or three for each, and a bit to tell which. -/
  space : Nat := 1
  /-- How many bytes of data they stand for. -/
  size : Nat := 0

namespace Batch

/-- Add a token with its space and size. -/
def push (batch : Batch) (token : Token) (space size : Nat) : Batch :=
  let count := batch.count + 1
  ⟨token :: batch.tokens, count, batch.space + space + (if count % 8 = 0 then 1 else 0),
    batch.size + size⟩

/-- Add a literal. -/
def literal (batch : Batch) (byte : UInt8) : Batch := batch.push (.literal byte) 1 1

/-- Add a copy. -/
def copy (batch : Batch) (copy : Copy) : Batch := batch.push (.copy copy) 3 copy.length

/-- Whether a block should end here. -/
def isFull (batch : Batch) : Bool :=
  65528 < batch.space || (31744 < batch.size && batch.size ≤ batch.space * 115 / 128)

end Batch

/-- A copy that has been put off, with the byte before which it would stand. -/
structure Delayed where
  /-- The byte at its place. -/
  byte : UInt8
  /-- The copy. -/
  copy : Copy

/-- How far the division has come. -/
structure Division where
  /-- The place. -/
  place : Nat
  /-- A copy that has been put off. -/
  delayed : Option Delayed := none
  /-- The present block. -/
  batch : Batch := {}
  /-- The blocks before it, last one first. -/
  batches : List Batch := []

namespace Division

/-- The copy to be considered at a place, none if its length is zero. -/
def candidate (effort : Effort) (data : Array UInt8) (links : Array Nat) (division : Division) :
    Copy :=
  let ahead := min longestCopy (data.size - division.place)
  let reach := min division.place (chains - ahead)
  let best := match division.delayed with
    | some delayed => ⟨0, delayed.copy.length⟩
    | none => ⟨0, 2⟩
  let found := Quest.run ⟨data, links, division.place, reach, ahead⟩ effort best
  if (found.length = 3 && 8192 ≤ found.distance) || division.place % chains = found.distance then
    ⟨0, 0⟩
  else found

/-- Put the literal or the copy at one place, or put a copy off. The place moves by at least
one byte. -/
def step (effort : Effort) (data : Array UInt8) (links : Array Nat) (division : Division) :
    Division :=
  let copy := division.candidate effort data links
  let byte := data.getD division.place 0
  match division with
  | ⟨place, some delayed, batch, batches⟩ =>
    if delayed.copy.length < copy.length then
      let batch := batch.literal delayed.byte
      if 128 ≤ copy.length then ⟨place + copy.length, none, batch.copy copy, batches⟩
      else ⟨place + 1, some ⟨byte, copy⟩, batch, batches⟩
    else ⟨place + (delayed.copy.length - 1), none, batch.copy delayed.copy, batches⟩
  | ⟨place, none, batch, batches⟩ =>
    if copy.distance = 0 then ⟨place + 1, none, batch.literal byte, batches⟩
    else if !effort.putsOff || 128 ≤ copy.length then
      ⟨place + copy.length, none, batch.copy copy, batches⟩
    else ⟨place + 1, some ⟨byte, copy⟩, batch, batches⟩

/-- Begin a new block if the present one should end. -/
def settle (division : Division) : Division :=
  if division.batch.isFull then
    { division with batch := {}, batches := division.batch :: division.batches }
  else division

/-- Go on to the end of the data, with so many steps to go. -/
def run (effort : Effort) (data : Array UInt8) (links : Array Nat) :
    (steps : Nat) → Division → Division
  | 0, division => division
  | steps + 1, division =>
    if data.size ≤ division.place then division
    else run effort data links steps (division.step effort data links).settle

end Division

/-- The blocks for data from a place on. There is always at least one. -/
def batchesFrom (effort : Effort) (data : Array UInt8) (place : Nat) : List Batch :=
  let division := Division.run effort data (links data) (data.size - place) { place }
  (division.batch :: division.batches).reverse

end ContentCoding.Deflate
