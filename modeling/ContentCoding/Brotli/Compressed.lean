import ContentCoding.Amount
import ContentCoding.Brotli.BlockWriter
import ContentCoding.Brotli.Raw
import ContentCoding.Brotli.Smoothing

/-!
# Compressed brotli streams

Data is divided into phrases in blocks of 64 KiB. All phrases since the last flush make up
one meta-block. Their literals, commands and distances are divided into blocks of their
own, and each type of block has its codes. Data that looks as if it could not get smaller,
or does not, is written as it is.
-/

namespace ContentCoding.Brotli

/-- The logarithm of the size of blocks of input. -/
def inputBits : Nat := 16

/-- The number of a command symbol for the ranges of its two numbers. -/
def commandSymbol (insertIndex copyIndex : Nat) (sameDistance : Bool) : Nat :=
  let low := copyIndex % 8 + 8 * (insertIndex % 8)
  if sameDistance && insertIndex < 8 && copyIndex < 16 then 64 * (copyIndex / 8) + low
  else
    let group := (commandGroups.toList.drop 2).idxOf (8 * (insertIndex / 8), 8 * (copyIndex / 8))
    64 * (group + 2) + low

/-- A phrase with its symbols. -/
structure Worded where
  /-- The number of literals. -/
  inserted : Nat
  /-- How many bytes the copy or the word stands for. -/
  copied : Nat
  /-- The command symbol. -/
  command : Nat
  /-- What of the numbers of the command its symbol does not tell. -/
  commandMore : List BitField
  /-- The distance symbol, if it is written. -/
  distance : Option Nat
  /-- What of the distance its symbol does not tell. -/
  distanceMore : BitField

/-- The symbol for a distance, and what it does not tell. -/
def distanceSymbol (distance : Nat) : Nat × BitField :=
  if distance < 16 then (distance, ⟨0, 0⟩)
  else
    let value := distance - 12
    let bits := value.log2 - 1
    let high := value / twoTo bits
    (16 + 2 * (bits - 1) + high % 2, ⟨bits, value - high * twoTo bits⟩)

/-- The symbols of a phrase. -/
def Phrase.word (phrase : Phrase) : Worded :=
  let insertIndex := Span.indexIn insertSpans phrase.inserted
  let copyIndex := Span.indexIn copySpans phrase.stated
  let command := commandSymbol insertIndex copyIndex (phrase.distance = 0)
  let (distance, more) := distanceSymbol phrase.distance
  ⟨phrase.inserted, phrase.copied, command,
    [(insertSpans.getD insertIndex default).field phrase.inserted,
      (copySpans.getD copyIndex default).field phrase.stated],
    if command < 128 || phrase.copied = 0 then none else some distance, more⟩

/-- The rule for literals. -/
def literalRule (contexts : Nat) : SplitRule := ⟨256, contexts, 512, 400⟩

/-- The rule for commands. -/
def commandRule : SplitRule := ⟨704, 1, 1024, 500⟩

/-- The rule for distances. -/
def distanceRule : SplitRule := ⟨64, 1, 512, 100⟩

/-- The last two bytes before a place. -/
def bytesBefore (data : Array UInt8) (place : Nat) : UInt8 × UInt8 :=
  (if 2 ≤ place then data.getD (place - 2) 0 else 0, if 1 ≤ place then data.getD (place - 1) 0 else 0)

/-- The class of the two bytes before a place. -/
def contextAt (data : Array UInt8) (place : Nat) : Nat :=
  let (previous, last) := bytesBefore data place
  ContextMode.text.classify previous last

/-- Count literals of a phrase. -/
def countLiterals (rule : SplitRule) (data : Array UInt8) (place count : Nat)
    (splitting : Splitting) : Splitting :=
  (List.range' place count).foldl (fun splitting place =>
    let context := if rule.contexts = 1 then 0 else lateContext (contextAt data place)
    splitting.count rule context (data.getD place 0).toNat) splitting

/-- The elements of a meta-block divided into blocks. -/
structure Elements where
  /-- The literals. -/
  literals : Divided
  /-- The commands. -/
  commands : Divided
  /-- The distances. -/
  distances : Divided

/-- Make the counts of divided elements more alike. -/
def Divided.smoothed (divided : Divided) : Divided :=
  { divided with counts := divided.counts.map smooth }

/-- Divide the elements of a meta-block into blocks. -/
def Elements.divide (contexts : Nat) (data : Array UInt8) (start : Nat) (phrases : List Worded) :
    Elements :=
  let literals := literalRule contexts
  let (_, literalSplitting) := phrases.foldl
    (fun (place, splitting) phrase =>
      (place + phrase.inserted + phrase.copied,
        countLiterals literals data place phrase.inserted splitting))
    (start, literals.start)
  let commandSplitting := phrases.foldl
    (fun splitting phrase => splitting.count commandRule 0 phrase.command) commandRule.start
  let distanceSplitting := (phrases.filterMap Worded.distance).foldl
    (fun splitting distance => splitting.count distanceRule 0 distance) distanceRule.start
  ⟨(literalSplitting.finish literals).smoothed, (commandSplitting.finish commandRule).smoothed,
    (distanceSplitting.finish distanceRule).smoothed⟩

/-- How elements of one kind are written. -/
structure ElementWriter where
  /-- The blocks. -/
  blocks : BlockWriter
  /-- The words for each code. -/
  words : Array (Array BitField)
  /-- How many codes each type has. -/
  codesPerType : Nat

/-- What gives the codes of some elements, with what writes the elements. -/
def elementWriter (codesPerType : Nat) (divided : Divided) : List BitField × ElementWriter :=
  let codes := divided.counts.map fun counts => writeCode counts.toList
  (codes.toList.flatMap WrittenCode.description,
    ⟨.make divided, codes.map WrittenCode.words, codesPerType⟩)

/-- Write an element in a context of its block type. -/
def ElementWriter.write (symbol context : Nat) : ElementWriter → BitWriter → BitWriter × ElementWriter
  | ⟨blocks, words, codesPerType⟩, writer =>
    let (begin, blocks) := blocks.next
    let word := (words.getD (blocks.type * codesPerType + context) #[]).getD symbol default
    ((writer.addAll begin).add word, ⟨blocks, words, codesPerType⟩)

/-- The writers for the three kinds of elements. -/
structure PhraseWriter where
  /-- For literals. -/
  literals : ElementWriter
  /-- For commands. -/
  commands : ElementWriter
  /-- For distances. -/
  distances : ElementWriter

/-- Write the literals from a place on. -/
def writeLiterals (data : Array UInt8) : (count : Nat) → (place : Nat) → ElementWriter → BitWriter →
    BitWriter × ElementWriter
  | 0, _, literals, writer => (writer, literals)
  | count + 1, place, literals, writer =>
    let context := if literals.codesPerType = 1 then 0 else lateContext (contextAt data place)
    let (writer, literals) := literals.write (data.getD place 0).toNat context writer
    writeLiterals data count (place + 1) literals writer

/-- Write phrases. -/
def writePhrases (data : Array UInt8) : (place : Nat) → List Worded → PhraseWriter → BitWriter →
    BitWriter
  | _, [], _, writer => writer
  | place, phrase :: rest, ⟨literals, commands, distances⟩, writer =>
    let (writer, commands) := commands.write phrase.command 0 writer
    let (writer, literals) :=
      writeLiterals data phrase.inserted place literals (writer.addAll phrase.commandMore)
    let (writer, distances) := match phrase.distance with
      | none => (writer, distances)
      | some distance =>
        let (writer, distances) := distances.write distance 0 writer
        (writer.add phrase.distanceMore, distances)
    writePhrases data (place + phrase.inserted + phrase.copied) rest ⟨literals, commands, distances⟩
      writer

/-- The number of bytes of a meta-block. -/
def sizeFields (size : Nat) : List BitField :=
  let bits := if size = 1 then 1 else (size - 1).log2 + 1
  let digits := (max 16 (bits + 3)) / 4
  [⟨2, digits - 4⟩, ⟨4 * digits, size - 1⟩]

/-- The header of a compressed meta-block. -/
def compressedHeader (last : Bool) (size : Nat) : List BitField :=
  if last then [⟨1, 1⟩, ⟨1, 0⟩] ++ sizeFields size else ⟨1, 0⟩ :: sizeFields size ++ [⟨1, 0⟩]

/-- A compressed meta-block for data from a place up to its end. -/
def writeCompressed (last : Bool) (data : Array UInt8) (start : Nat) (phrases : List Phrase)
    (writer : BitWriter) : BitWriter :=
  let phrases := phrases.map Phrase.word
  let contexts := if usesContexts data start data.size then 2 else 1
  let elements := Elements.divide contexts data start phrases
  let (literalCodes, literals) := elementWriter contexts elements.literals
  let (commandCodes, commands) := elementWriter 1 elements.commands
  let (distanceCodes, distances) := elementWriter 1 elements.distances
  let types := elements.literals.types
  let literalMap :=
    if contexts = 1 then plainMapFields types 6
    else
      mapFields (types * contexts) ((List.range types).flatMap fun type =>
        (List.range 64).map fun context => type * contexts + lateContext context)
  let writer := writer.addAll
    (compressedHeader last (data.size - start) ++ literals.blocks.description ++
      commands.blocks.description ++ distances.blocks.description ++ [⟨2, 0⟩, ⟨4, 0⟩] ++
      List.replicate types ⟨2, 2⟩ ++ literalMap ++ plainMapFields elements.distances.types 2 ++
      literalCodes ++ commandCodes ++ distanceCodes)
  let writer := writePhrases data start phrases ⟨literals, commands, distances⟩ writer
  if last then writer.align else writer

/-- A meta-block that holds data from a place up to its end as it is, and the end of the
stream after it, if it is the last one. -/
def writeStored (last : Bool) (data : Array UInt8) (start : Nat) (writer : BitWriter) : BitWriter :=
  let writer :=
    (writer.addAll (⟨1, 0⟩ :: sizeFields (data.size - start) ++ [⟨1, 1⟩])).align.addBytes
      (data.extract start data.size).toList
  if last then (writer.add ⟨2, 3⟩).align else writer

/-- How often each byte occurs in a sample: every thirteenth is taken. -/
def sampleCounts (data : Array UInt8) (start : Nat) : Array Nat :=
  let size := data.size - start
  (List.range ((size + 12) / 13)).foldl
    (fun counts index => counts.modify (data.getD (start + 13 * index) 0).toNat (· + 1))
    (Array.replicate 256 0)

/-- Whether data from a place on may get smaller. -/
def seemsWorth (data : Array UInt8) (start : Nat) (phrases : List Phrase) : Bool :=
  let size := data.size - start
  if size ≤ 2 then false
  else if size / 256 + 2 ≤ phrases.length then true
  else
    let literals := sumOf (phrases.map Phrase.inserted)
    if Float.ofNat literals ≤ 0.99 * Float.ofNat size then true
    else !(Float.ofNat size * 7.92 / 13 < estimatedBits (sampleCounts data start))

/-- The state of an encoder. -/
structure Compressing where
  /-- All data so far. -/
  data : Array UInt8 := #[]
  /-- How much of it has been written. -/
  written : Nat := 0
  /-- How much of it has been divided into phrases. -/
  divided : Nat := 0
  /-- The state of the search. -/
  searching : Searching := {}
  /-- The last distances where the present meta-block begins. -/
  saved : Recent := {}
  /-- The output. -/
  writer : BitWriter

/-- Write what has been divided into phrases as a meta-block. -/
def writeMetaBlock (last : Bool) (state : Compressing) : Compressing :=
  match state with
  | ⟨data, written, divided, ⟨finder, inserted, recent, phrases⟩, saved, writer⟩ =>
    let shown := if divided = data.size then data else data.extract 0 divided
    let phrases :=
      (if inserted = 0 then phrases else Phrase.ending inserted :: phrases).reverse
    let (writer, recent) :=
      if seemsWorth shown written phrases then
        let output := writeCompressed last shown written phrases writer
        if divided - written + 4 < output.bytes.size - writer.bytes.size then
          (writeStored last shown written writer, saved)
        else (output, recent)
      else (writeStored last shown written writer, saved)
    ⟨data, divided, divided, ⟨finder, 0, recent, []⟩, recent, writer⟩

/-- Whether a meta-block has become so large that it should end. -/
def isFull (window : Nat) (state : Compressing) : Bool :=
  let most := twoTo (min (1 + max window inputBits) 24)
  let size := state.divided - state.written
  most < size + twoTo inputBits || most / 8 ≤ state.searching.phrases.length ||
    most / 8 ≤ sumOf (state.searching.phrases.map Phrase.inserted)

/-- Divide data into phrases and write full meta-blocks, with so many blocks of input to go.
The last block is left to the end of the stream. -/
def advance (window : Nat) (ends : Bool) : (steps : Nat) → Compressing → Compressing
  | 0, state => state
  | steps + 1, ⟨data, written, divided, searching, saved, writer⟩ =>
    if data.size ≤ divided then ⟨data, written, divided, searching, saved, writer⟩
    else
      let stop := min data.size (divided + twoTo inputBits)
      let extent : Extent := ⟨data, stop, ({ bits := window } : Window).reach⟩
      let state : Compressing :=
        ⟨data, written, stop, divideBlock extent divided searching, saved, writer⟩
      let state :=
        if isFull window state && !(ends && stop = data.size) then writeMetaBlock false state
        else state
      advance window ends steps state

/-- Compressed streams for the logarithm of a window size. -/
def compressing (window : Nat) : Packer where
  State := Compressing
  start := { writer := ({} : BitWriter).add (windowField window) }
  take
    | ⟨data, written, divided, searching, saved, writer⟩, bytes =>
      ⟨data.appendList bytes, written, divided, searching, saved, writer⟩
  flush state :=
    let state := advance window false state.data.size state
    let state := if state.written < state.divided then writeMetaBlock false state else state
    let writer := state.writer
    let writer := if writer.count = 0 then writer else (writer.add emptyMetadata).align
    (writer.bytes.toList, { state with writer := {} })
  finish state :=
    let state := advance window true state.data.size state
    let writer :=
      if state.written < state.divided then (writeMetaBlock true state).writer
      else (state.writer.add ⟨2, 3⟩).align
    writer.bytes.toList

end ContentCoding.Brotli
