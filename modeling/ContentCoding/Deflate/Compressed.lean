import ContentCoding.Deflate.Block
import ContentCoding.Deflate.Stored
import ContentCoding.Deflate.Tokens
import ContentCoding.Huffman.Lengths

/-!
# Compressed deflate data

A block of few bytes uses the fixed codes, any other block codes of its own, whose
lengths it gives first. A block that would not get smaller is stored.
-/

namespace ContentCoding.Deflate

open Huffman

/-- The number of symbols of the first code. -/
def literalSymbols : Nat := 288

/-- The number of symbols of the second code. -/
def distanceSymbols : Nat := 32

/-- How often the symbols of the two codes occur. -/
structure Tally where
  /-- The symbols of the first code. -/
  literals : Array Nat
  /-- The symbols of the second code. -/
  distances : Array Nat

/-- Count the symbols of a token. -/
def Tally.add (tally : Tally) : Token → Tally
  | .literal byte => { tally with literals := tally.literals.modify byte.toNat (· + 1) }
  | .copy copy =>
    ⟨tally.literals.modify (257 + Span.indexIn lengthSpans copy.length) (· + 1),
      tally.distances.modify (Span.indexIn distanceSpans copy.distance) (· + 1)⟩

/-- The symbols of a block with its end. -/
def Tally.ofTokens (tokens : List Token) : Tally :=
  let tally := tokens.foldl Tally.add
    ⟨Array.replicate literalSymbols 0, Array.replicate distanceSymbols 0⟩
  { tally with literals := tally.literals.setIfInBounds 256 1 }

/-- The code words that a block uses. -/
structure Words where
  /-- The words of the first code. -/
  literals : Array BitField
  /-- The words of the second code. -/
  distances : Array BitField

/-- The code words of two codes. -/
def Codes.words (codes : Codes) : Words :=
  ⟨codes.literals.wordsFor literalSymbols, codes.distances.wordsFor distanceSymbols⟩

/-- The symbol of a value and its place in the range. -/
def spanFields (spans : Array Span) (words : Array BitField) (first value : Nat) : List BitField :=
  let index := Span.indexIn spans value
  let span := spans.getD index default
  [words.getD (first + index) default, span.field value]

/-- A token in code words. -/
def Token.fields (words : Words) : Token → List BitField
  | .literal byte => [words.literals.getD byte.toNat default]
  | .copy found =>
    spanFields lengthSpans words.literals 257 found.length ++
      spanFields distanceSpans words.distances 0 found.distance

/-- The tokens of a block and its end in code words. -/
def tokenFields (words : Words) (tokens : List Token) : List BitField :=
  tokens.flatMap (Token.fields words) ++ [words.literals.getD 256 default]

/-- The list without what it ends with, as far as a condition holds. -/
def dropEnd {α : Type} (condition : α → Bool) (list : List α) : List α :=
  (list.reverse.dropWhile condition).reverse

/-- A run of equal code lengths. -/
structure LengthRun where
  /-- The length. -/
  length : Nat
  /-- How many. -/
  count : Nat

/-- Divide code lengths into runs. -/
def lengthRuns : List Nat → List LengthRun
  | [] => []
  | length :: rest =>
    match lengthRuns rest with
    | ⟨next, count⟩ :: runs =>
      if length = next then ⟨length, count + 1⟩ :: runs
      else ⟨length, 1⟩ :: ⟨next, count⟩ :: runs
    | [] => [⟨length, 1⟩]

/-- A symbol of the code for lengths with the bits that follow it. -/
structure LengthSymbol where
  /-- The symbol. -/
  symbol : Nat
  /-- The bits that follow. -/
  more : BitField := ⟨0, 0⟩

/-- So many zeros in a row, in pieces of at most 138. -/
def zeroSymbols (count : Nat) : List LengthSymbol :=
  if count < 3 then List.replicate count ⟨0, ⟨0, 0⟩⟩
  else if count ≤ 10 then [⟨17, ⟨3, count - 3⟩⟩]
  else if count ≤ 138 then [⟨18, ⟨7, count - 11⟩⟩]
  else ⟨18, ⟨7, 127⟩⟩ :: zeroSymbols (count - 138)
termination_by count

/-- A length repeated so many times more, in pieces of at most six. -/
def repeatSymbols (length count : Nat) : List LengthSymbol :=
  if count < 3 then List.replicate count ⟨length, ⟨0, 0⟩⟩
  else if count ≤ 6 then [⟨16, ⟨2, count - 3⟩⟩]
  else ⟨16, ⟨2, 3⟩⟩ :: repeatSymbols length (count - 6)
termination_by count

/-- The symbols for a run of lengths. -/
def LengthRun.symbols (run : LengthRun) : List LengthSymbol :=
  if run.length = 0 then zeroSymbols run.count
  else ⟨run.length, ⟨0, 0⟩⟩ :: repeatSymbols run.length (run.count - 1)

/-- The codes of a block, and the fields in which it gives them. -/
def givenFields (tally : Tally) : List BitField × Words :=
  let literals := limitedLengths maxLength tally.literals.toList
  let distances := limitedLengths maxLength tally.distances.toList
  let literalsGiven := literals.take 257 ++ dropEnd (· = 0) ((literals.take 286).drop 257)
  let distancesGiven := distances.take 1 ++ dropEnd (· = 0) ((distances.take 30).drop 1)
  let symbols := (lengthRuns (literalsGiven ++ distancesGiven)).flatMap LengthRun.symbols
  let counts := symbols.foldl (fun counts symbol => counts.modify symbol.symbol (· + 1))
    (Array.replicate 19 0)
  let lengths := limitedLengths 7 counts.toList
  let ordered := lengthOrder.map fun symbol => lengths.getD symbol 0
  let lengthsGiven := ordered.take 4 ++ dropEnd (· = 0) (ordered.drop 4)
  let words := (ofLengths 7 lengths).tree.wordsFor 19
  let codes : Codes := ⟨(ofLengths maxLength literals).tree, (ofLengths maxLength distances).tree⟩
  ([⟨5, literalsGiven.length - 257⟩, ⟨5, distancesGiven.length - 1⟩, ⟨4, lengthsGiven.length - 4⟩] ++
    lengthsGiven.map (fun length => ⟨3, length⟩) ++
    symbols.flatMap (fun symbol => [words.getD symbol.symbol default, symbol.more]), codes.words)

/-- A block with the fixed codes. -/
def fixedFields (tokens : List Token) : List BitField :=
  ⟨2, 1⟩ :: tokenFields fixedCodes.words tokens

/-- A block with codes of its own. -/
def ownFields (tokens : List Token) : List BitField :=
  let (fields, words) := givenFields (.ofTokens tokens)
  ⟨2, 2⟩ :: fields ++ tokenFields words tokens

/-- Blocks of fewer bytes have fixed codes. -/
def fixedBelow : Nat := 48

/-- Write a block for a piece of data. -/
def writeBlock (last : Bool) (data : Array UInt8) (place : Nat) (batch : Batch)
    (writer : BitWriter) : BitWriter :=
  let writer := writer.add ⟨1, if last then 1 else 0⟩
  let tokens := batch.tokens.reverse
  let fields := if batch.size < fixedBelow then fixedFields tokens else ownFields tokens
  if 32 < batch.size && batch.size ≤ (writer.count + BitField.totalWidth fields) / 8 + 1 then
    ((writer.add ⟨2, 0⟩).align.addAll [⟨16, batch.size⟩, ⟨16, maxStored - batch.size⟩]).addBytes
      (data.extract place (place + batch.size)).toList
  else writer.addAll fields

/-- Write blocks one after another, the last one marked if it is the end of the data. -/
def writeBlocks (ends : Bool) (data : Array UInt8) :
    (place : Nat) → List Batch → BitWriter → BitWriter
  | _, [], writer => writer
  | place, batch :: batches, writer =>
    writeBlocks ends data (place + batch.size) batches
      (writeBlock (ends && batches.isEmpty) data place batch writer)

/-- Data of which a part has been written. -/
structure Compressing where
  /-- The data. -/
  data : Array UInt8 := #[]
  /-- How much has been written. -/
  written : Nat := 0

/-- Deflate data made with some effort. Flushing ends with an empty stored block, so that
all is in whole bytes. -/
def compressing (effort : Effort) : Packer where
  State := Compressing
  start := {}
  take state bytes := { state with data := state.data.appendList bytes }
  flush state :=
    let writer := writeBlocks false state.data state.written
      (batchesFrom effort state.data state.written) {}
    let writer := (writer.add ⟨3, 0⟩).align.addBytes [0, 0, 0xFF, 0xFF]
    (writer.bytes.toList, { state with written := state.data.size })
  finish state :=
    let writer := writeBlocks true state.data state.written
      (batchesFrom effort state.data state.written) {}
    writer.align.bytes.toList

end ContentCoding.Deflate
