import ContentCoding.Decode.Scan
import ContentCoding.Zstd.Literals
import ContentCoding.Zstd.Sequences

/-!
# What a zstd block decodes to

A block, or a part of it, is literals with sequences that copy earlier output in
between. Whether they can be carried out depends on lengths alone: on how much
room there is, and on how far back copies reach. So all of it is checked before
any of it is carried out, and `Piece.perform` has nothing left to refuse.
-/

namespace ContentCoding.Zstd

/-- Where the output of a block goes. -/
structure Space where
  /-- How many bytes there is room for. -/
  room : Nat
  /-- How far back a copy may reach. -/
  reach : Nat

/-- What a block may use again of the blocks before it. -/
structure Codes where
  /-- The latest prefix code of literals. -/
  literals : Option PrefixTable := none
  /-- The latest codes of sequences. -/
  sequences : Option SequenceTables := none
  /-- The latest offsets. -/
  offsets : Offsets := {}

/-- Output that can be carried out. -/
structure Piece where
  /-- The literals. Those that no sequence takes come last. -/
  literals : Bytes
  /-- The sequences. -/
  sequences : List Sequence := []
  /-- The amount of output. -/
  size : Nat
  /-- What the next block may use again. -/
  codes : Codes

namespace Piece

/-- Check sequences against the number of literals and the space, and give what is left of
both. -/
def fit : List Sequence → (literals : Nat) → Space → Except Damage (Nat × Space)
  | [], literals, space => .ok (literals, space)
  | sequence :: rest, literals, ⟨room, reach⟩ =>
    let size := sequence.literals + sequence.length
    if room < size then .error .room
    else if literals < sequence.literals || sequence.offset = 0 ||
        reach + sequence.literals < sequence.offset then .error .data
    else fit rest (literals - sequence.literals) ⟨room - size, reach + size⟩

/-- Bytes as they are. -/
def ofBytes (codes : Codes) (bytes : Bytes) (space : Space) : Except Damage Piece :=
  if space.room < bytes.length then .error .room
  else .ok { literals := bytes, size := bytes.length, codes }

/-- One byte so many times. -/
def ofRepeated (codes : Codes) (value : UInt8) (count : Nat) (space : Space) :
    Except Damage Piece :=
  if space.room < count then .error .room
  else .ok { literals := List.replicate count value, size := count, codes }

/-- Coded literals and sequences. There are at most `limit` literals. Sequences for which
there are not the right number of bits are checked nevertheless before that is reported. -/
def ofCoded (limit : Nat) (codes : Codes) (bytes : Bytes) (space : Space) :
    Except Damage Piece := do
  let literals ← Literals.read limit space.room codes.literals bytes
  let (count, tables, rest) ← Sequence.readTables codes.sequences literals.rest
  let (sequences, offsets) ← match count, tables with
    | 0, _ | _, none => pure ([], .ok codes.offsets)
    | _, some tables =>
      if space.room = 0 then throw .room
      else pure (Sequence.decode tables count codes.offsets rest)
  let (trailing, left) ← fit sequences literals.bytes.length space
  let offsets ← offsets
  if left.room < trailing then throw .room
  return {
    literals := literals.bytes
    sequences
    size := space.room - (left.room - trailing)
    codes := ⟨literals.table, tables, offsets⟩ }

/-- Carry out sequences, and put out the literals that are left. -/
def performFrom : List Sequence → (literals : Bytes) → Scan Unit
  | [], literals => Scan.put literals
  | sequence :: rest, literals => do
    let (taken, literals) := literals.splitAt sequence.literals
    Scan.put taken
    Scan.again sequence.offset sequence.length
    performFrom rest literals

/-- Carry out a piece. -/
def perform (piece : Piece) : Scan Unit := performFrom piece.sequences piece.literals

end Piece

end ContentCoding.Zstd
