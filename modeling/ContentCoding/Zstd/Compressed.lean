import ContentCoding.Amount
import ContentCoding.Encode.Packer
import ContentCoding.Zstd.Frame
import ContentCoding.Zstd.LiteralCode
import ContentCoding.Zstd.Raw
import ContentCoding.Zstd.Search

/-!
# Compressed zstd frames

A block is divided into sequences, and its literals and sequences are written in codes made
for it, in codes of the block before, or in fixed ones. A block that would hardly get smaller
is written as it is.
-/

namespace ContentCoding.Zstd

open LiteralCode

/-- How much smaller something has to get for its size. -/
def leastGain (size : Nat) : Nat := size / 64 + 2

/-- Literals before they are coded: as they are, or one of them to be repeated. -/
def plainLiterals (kind count : Nat) (bytes : Bytes) : Bytes :=
  (if count < 32 then Bytes.littleEndian 1 (kind + 8 * count)
    else if count < 4096 then Bytes.littleEndian 2 (kind + 4 + 16 * count)
    else Bytes.littleEndian 3 (kind + 12 + 16 * count)) ++ bytes

/-- Literals in code words, as one stream. -/
def literalStream (words : Array BitField) (literals : Bytes) : Bytes :=
  stackBytes (literals.map fun literal => words.getD literal.toNat default)

/-- Literals in code words, as one stream or as four, after the lengths of the first three. -/
def literalStreams (words : Array BitField) (single : Bool) (literals : Bytes) : Bytes :=
  if single then literalStream words literals
  else
    let each := (literals.length + 3) / 4
    let first := literalStream words (literals.take each)
    let second := literalStream words ((literals.drop each).take each)
    let third := literalStream words ((literals.drop (2 * each)).take each)
    let fourth := literalStream words (literals.drop (3 * each))
    [first, second, third].flatMap (fun stream => Bytes.littleEndian 2 stream.length) ++ first ++
      second ++ third ++ fourth

/-- A code for literals, with what tells the reader about it. -/
structure LiteralChoice where
  /-- The lengths of the code words. -/
  lengths : List Nat
  /-- The description of a new code, none if the code of the block before is used. -/
  description : Option Bytes

/-- Whether a code has words for all symbols that occur. -/
def covers (lengths counts : List Nat) : Bool :=
  (counts.zip lengths).all fun (count, length) => count = 0 || length ≠ 0

/-- The size of coded literals in bytes, rounded down. -/
def codedSize (lengths counts : List Nat) : Nat :=
  sumOf ((counts.zip lengths).map fun (count, length) => count * length) / 8

/-- How often each literal occurs. -/
def literalCounts (literals : Bytes) : List Nat :=
  (literals.foldl (fun counts literal => counts.modify literal.toNat (· + 1))
    (Array.replicate 256 0)).toList

/-- Whether samples from both ends suggest that literals are too dense. -/
def seemsDense (literals : Bytes) : Bool :=
  let most (sample : Bytes) : Nat := (literalCounts sample).foldl max 0
  most (literals.take 4096) + most (literals.drop (literals.length - 4096)) ≤ 68

/-- Choose a code for literals, if it is worth it. -/
def chooseCode (before : Option (List Nat)) (count : Nat) (counts : List Nat) :
    Option LiteralChoice :=
  let old := before.filter fun lengths => covers lengths counts
  match old, decide (count ≤ 1024) with
  | some lengths, true => some ⟨lengths, none⟩
  | old, _ =>
    let counts := (counts.reverse.dropWhile (· = 0)).reverse
    let lengths := lengthsOf (Fse.tableLog 11 count (counts.length - 1) 1) counts
    match describe lengths with
    | none => none
    | some description =>
      let tooMuch := count ≤ description.length + 12
      let whole := lengths ++ List.replicate (256 - lengths.length) 0
      match old with
      | some lengths =>
        if codedSize lengths counts ≤ description.length + codedSize whole counts || tooMuch then
          some ⟨lengths, none⟩
        else some ⟨whole, some description⟩
      | none => if tooMuch then none else some ⟨whole, some description⟩

/-- The code words for lengths, if the lengths make a code. -/
def wordsOfLengths (lengths : List Nat) : Option (Array BitField) :=
  let lengths := (lengths.reverse.dropWhile (· = 0)).reverse
  match PrefixTable.ofWeights (weightsOf lengths).dropLast with
  | .ok table => some (wordsOf table)
  | .error _ => none

/-- Literals with the lengths of the code words for the next block. -/
structure WrittenLiterals where
  /-- The literals in bytes. -/
  bytes : Bytes
  /-- The lengths. -/
  lengths : Option (List Nat)

/-- Literals in a code, if that makes them smaller. -/
def codedLiterals (choice : LiteralChoice) (literals : Bytes) : Option Bytes := do
  let words ← wordsOfLengths choice.lengths
  let count := literals.length
  let single := count < 256
  let coded := choice.description.getD [] ++ literalStreams words single literals
  if count ≤ coded.length + leastGain count then none
  else
    let kind := if choice.description.isSome then 2 else 3
    let header :=
      if count < 1024 then
        Bytes.littleEndian 3
          (kind + (if single then 0 else 4) + 16 * count + twoTo 14 * coded.length)
      else if count < 16384 then
        Bytes.littleEndian 4 (kind + 8 + 16 * count + twoTo 18 * coded.length)
      else Bytes.littleEndian 5 (kind + 12 + 16 * count + twoTo 22 * coded.length)
    return header ++ coded

/-- Write literals. Few of them are not coded. -/
def writeLiterals (before : Option (List Nat)) (sequences : Nat) (literals : Bytes) :
    WrittenLiterals :=
  let count := literals.length
  let plain : WrittenLiterals := ⟨plainLiterals 0 count literals, before⟩
  if count < 64 then plain
  else
    let suspect := sequences = 0 || 20 ≤ count / sequences
    let counts := literalCounts literals
    let most := counts.foldl max 0
    if suspect && 40960 ≤ count && seemsDense literals then plain
    else if most = count then ⟨plainLiterals 1 count (literals.take 1), before⟩
    else if most ≤ count / 128 + 4 then plain
    else
      match chooseCode before count counts with
      | none => plain
      | some choice =>
        match codedLiterals choice literals with
        | none => plain
        | some bytes => ⟨bytes, some choice.lengths⟩

/-- A code for one of the numbers of sequences, with what tells the reader about it. -/
structure NumberCode where
  /-- The way in which it is given. -/
  way : Nat
  /-- Its description. -/
  description : Bytes
  /-- The code. -/
  coder : Fse.Coder

/-- Choose a code for symbols: a fixed one for few of them, none for a single one. -/
def CodeKind.choose (kind : CodeKind) (allowsFixed : Bool) (symbols : List Nat) : NumberCode :=
  let total := symbols.length
  let counts := Fse.countsOf symbols
  let most := counts.foldl max 0
  let fixed : NumberCode := ⟨0, [], .ofTable kind.predefined⟩
  let last := symbols.getLast?.getD 0
  if most = total then
    if allowsFixed && total ≤ 2 then fixed
    else ⟨1, [UInt8.ofNat last], .ofTable (Fse.constant last)⟩
  else if allowsFixed &&
      (total < twoTo kind.predefined.log || most < total / twoTo (kind.predefined.log - 1)) then fixed
  else
    let log := Fse.tableLog kind.maxLog total (counts.length - 1) 2
    let counts := if 1 < counts.getD last 0 then counts.modify last (· - 1) else counts
    let shares := Fse.sharesOf log (if 2048 ≤ sumOf counts then -1 else 1) counts
    ⟨2, Fse.writeShares shares, .ofTable (Fse.tableOf shares)⟩

/-- The number of sequences in bytes. -/
def countBytes (count : Nat) : Bytes :=
  if count < 128 then [UInt8.ofNat count]
  else if count < 32512 then [UInt8.ofNat (count / 256 + 128), UInt8.ofNat count]
  else 255 :: Bytes.littleEndian 2 (count - 32512)

/-- The symbols of a sequence. -/
structure Symbols where
  /-- The symbol of the number of literals. -/
  literals : Nat
  /-- The symbol of the offset. -/
  offset : Nat
  /-- The symbol of the length. -/
  length : Nat
  /-- The bits that choose among the values of the symbols, in the order of reading. -/
  more : List BitField

/-- The symbols of a sequence. -/
def Found.symbols (found : Found) : Symbols :=
  let literals := Span.indexIn CodeKind.literalLengths.spans found.literals
  let offset := found.value.log2
  let length := Span.indexIn CodeKind.matchLengths.spans found.length
  ⟨literals, offset, length,
    [⟨offset, found.value - twoTo offset⟩,
      (CodeKind.matchLengths.spans.getD length default).field found.length,
      (CodeKind.literalLengths.spans.getD literals default).field found.literals]⟩

/-- Write sequences, the later ones first, before states of the three codes and the fields
that follow. -/
def sequenceFields (literals offsets lengths : Fse.Coder) :
    (earlier : List Symbols) → (literal offset length : Nat) → List BitField → List BitField
  | [], literal, offset, length, fields =>
    literals.field literal :: offsets.field offset :: lengths.field length :: fields
  | symbols :: earlier, literal, offset, length, fields =>
    let (offsetField, offset) := offsets.encode symbols.offset offset
    let (lengthField, length) := lengths.encode symbols.length length
    let (literalField, literal) := literals.encode symbols.literals literal
    sequenceFields literals offsets lengths earlier literal offset length
      (symbols.more ++ literalField :: lengthField :: offsetField :: fields)

/-- Write sequences, if the result can be read by every reader. -/
def writeSequences (found : List Found) : Option Bytes :=
  let symbols := found.map Found.symbols
  match symbols.reverse with
  | [] => some [0]
  | last :: earlier =>
    let literals := CodeKind.literalLengths.choose true (symbols.map Symbols.literals)
    let offsets := CodeKind.offsets.choose (symbols.all fun symbols => symbols.offset ≤ 28)
      (symbols.map Symbols.offset)
    let lengths := CodeKind.matchLengths.choose true (symbols.map Symbols.length)
    let codes := [literals, offsets, lengths]
    let stream := stackBytes (sequenceFields literals.coder offsets.coder lengths.coder earlier
      (literals.coder.start last.literals) (offsets.coder.start last.offset)
      (lengths.coder.start last.length) last.more)
    match (codes.filter fun code => code.way = 2).getLast? with
    | some code =>
      if code.description.length + stream.length < 4 then none
      else some (body symbols codes stream)
    | none => some (body symbols codes stream)
where
  /-- Everything after the literals. -/
  body (symbols : List Symbols) (codes : List NumberCode) (stream : Bytes) : Bytes :=
    let ways := codes.foldl (fun ways code => 4 * ways + code.way) 0
    countBytes symbols.length ++ UInt8.ofNat (4 * ways) :: codes.flatMap NumberCode.description ++
      stream

/-- The literals of a divided block, which begins at a place of the data. -/
def literalsOf (data : Array UInt8) : (place : Nat) → List Found → (trailing : Nat) → Bytes
  | place, [], trailing => (data.extract place (place + trailing)).toList
  | place, found :: rest, trailing =>
    (data.extract place (place + found.literals)).toList ++
      literalsOf data (place + found.literals + found.length) rest trailing

/-- What is known from earlier blocks when a block begins. -/
structure Compressing where
  /-- All data so far. -/
  data : Array UInt8 := #[]
  /-- How much of it has been written. -/
  written : Nat := 0
  /-- What the search knows. -/
  memory : Memory := {}
  /-- The lengths of the code words of literals. -/
  lengths : Option (List Nat) := none
  /-- Whether the header has been written. -/
  opened : Bool := false
  /-- Whether anything was taken, even if it was empty. -/
  touched : Bool := false

/-- The header of a block. -/
def blockHeader (last : Bool) (kind size : Nat) : Bytes :=
  Bytes.littleEndian 3 (size * 8 + 2 * kind + if last then 1 else 0)

/-- Write data from a place up to its end as one block. -/
def writeBlock (last : Bool) (data : Array UInt8) (place : Nat) (memory : Memory)
    (before : Option (List Nat)) : Bytes × Memory × Option (List Nat) :=
  let size := data.size - place
  let content := (data.extract place data.size).toList
  let plain := blockHeader last 0 size ++ content
  if size < 7 then (plain, memory, before)
  else
    match memory with
    | ⟨places, first, second⟩ =>
      let (divided, places) := divide data place ⟨places, first, second⟩
      let kept : Memory := ⟨places, first, second⟩
      let literals :=
        writeLiterals before divided.found.length (literalsOf data place divided.found divided.trailing)
      let coded := match writeSequences divided.found with
        | none => []
        | some sequences =>
          let coded := literals.bytes ++ sequences
          if coded.length + leastGain size < size then coded else []
      if place ≠ 0 && coded.length < 25 && content.all (· == content.headD 0) then
        (blockHeader last 1 size ++ content.take 1, kept, before)
      else if coded.isEmpty then (plain, kept, before)
      else
        (blockHeader last 2 coded.length ++ coded, ⟨places, divided.first, divided.second⟩,
          literals.lengths)

/-- Write the next blocks, with so many steps to go. The last one is marked if the data ends,
unless it is as large as a block can be. -/
def writeBlocks (ends : Bool) : (steps : Nat) → Compressing → Bytes × Compressing
  | 0, state => ([], state)
  | steps + 1, ⟨data, written, memory, lengths, opened, touched⟩ =>
    if data.size ≤ written then ([], ⟨data, written, memory, lengths, opened, touched⟩)
    else
      let stop := min data.size (written + maxBlock)
      let last := ends && stop = data.size && stop < written + maxBlock
      let (bytes, memory, lengths) :=
        writeBlock last (if stop = data.size then data else data.extract 0 stop) written memory lengths
      let (more, state) := writeBlocks ends steps ⟨data, stop, memory, lengths, opened, touched⟩
      (bytes ++ more, state)

/-- A header that says nothing but the size of the window, 2 MiB. -/
def compressedOpening : Bytes := magic ++ [0, 0x58]

/-- A frame without data, whose size it gives. -/
def emptyFrame : Bytes := magic ++ [0x20, 0] ++ lastBlock

/-- Compressed frames. Nothing is put out before there is data, and a frame that is ended
before anything is taken says that it is empty. -/
def compressing : Packer where
  State := Compressing
  start := {}
  take
    | ⟨data, written, memory, lengths, opened, _⟩, bytes =>
      ⟨data.appendList bytes, written, memory, lengths, opened, true⟩
  flush state :=
    if state.data.size = state.written then ([], { state with touched := true })
    else
      let opening := if state.opened then [] else compressedOpening
      let (blocks, state) := writeBlocks false state.data.size state
      (opening ++ blocks, { state with opened := true })
  finish state :=
    if !state.touched then emptyFrame
    else
      let opening := if state.opened then [] else compressedOpening
      let pending := state.data.size - state.written
      let (blocks, _) := writeBlocks true state.data.size state
      opening ++ blocks ++ if pending % maxBlock = 0 then lastBlock else []

end ContentCoding.Zstd
