import ContentCoding.Decode.Format
import ContentCoding.Huffman.Code
import ContentCoding.Span

/-!
# Deflate data

Deflate data is a series of blocks, the last one marked. A block holds bytes as
they are, or symbols in two prefix codes, fixed ones or codes that the block
gives first. A symbol is a byte, the end of the block, or the length of a copy
whose distance follows.

A copy may reach back to before the data, where all bytes count as zero. Codes have
to be complete. A code with at most one word may be incomplete, but
not the code in which the other codes are given.
-/

namespace ContentCoding.Deflate

open Huffman

/-- The report of data that is not valid. -/
def corrupt : Failure := ⟨.described .invalidInput "corrupt deflate stream", true⟩

/-- The report of data that has been cut short. -/
def truncated : Failure := ⟨.described .unexpectedEof "incomplete deflate stream", true⟩

/-- The longest code word. -/
def maxLength : Nat := 15

/-- The codes of a block. -/
structure Codes where
  /-- Bytes, the end of the block, and lengths. -/
  literals : Tree
  /-- Distances. -/
  distances : Tree

/-- Which part of deflate data comes next. -/
inductive Mode
  /-- A block. -/
  | head
  /-- A symbol of a block that may be the last. -/
  | symbols (last : Bool) (codes : Codes)

/-- The lengths that the symbols from 257 on stand for. The last symbol stands for
the greatest length alone, which the range before it would reach as well. -/
def lengthSpans : Array Span :=
  (Span.seriesFrom 3
    (List.replicate 8 0 ++ [1, 2, 3, 4, 5].flatMap fun bits => List.replicate 4 bits)).toArray.push
    ⟨258, 0⟩

/-- The distances that the symbols of the second code stand for. -/
def distanceSpans : Array Span :=
  (Span.seriesFrom 1
    (List.replicate 4 0 ++ (List.range' 1 13).flatMap fun bits => List.replicate 2 bits)).toArray

/-- The value that a symbol stands for, if it stands for a range. -/
def valueOf (spans : Array Span) (index : Nat) : Scan Nat :=
  match spans[index]? with
  | some span => span.read
  | none => .fail corrupt

/-- The fixed codes. -/
def fixedCodes : Codes where
  literals :=
    (ofLengths maxLength
      (List.replicate 144 8 ++ List.replicate 112 9 ++ List.replicate 24 7 ++
        List.replicate 8 8)).tree
  distances := (ofLengths maxLength (List.replicate 32 5)).tree

/-- The order in which the lengths of the first code are given. -/
def lengthOrder : List Nat := [16, 17, 18, 0, 8, 7, 9, 6, 10, 5, 11, 4, 12, 3, 13, 2, 14, 1, 15]

/-- A code that may be used, given its lengths. -/
def codeOf (lengths : List Nat) : Scan Tree :=
  let grown := ofLengths maxLength lengths
  if grown.overfull || (1 < grown.words && !grown.tree.isComplete) then .fail corrupt
  else .done grown.tree

/-- Numbers of three bits. -/
def triples : (count : Nat) → List Nat → Scan (List Nat)
  | 0, taken => .done taken.reverse
  | count + 1, taken => (Scan.bits 3).bind fun value => triples count (value :: taken)

/-- The code in which code lengths are given. -/
def lengthCode (count : Nat) : Scan Tree :=
  (triples count []).bind fun given =>
    let lengths := (List.range 19).map fun symbol =>
      ((lengthOrder.zip given).lookup symbol).getD 0
    let grown := ofLengths 7 lengths
    if grown.overfull || !grown.tree.isComplete then .fail corrupt else .done grown.tree

/-- Read code lengths, with so many steps to go. Those read so far are passed along,
last one first, with their number. -/
def lengthsFor (code : Tree) (total : Nat) :
    (steps : Nat) → (count : Nat) → List Nat → Scan (List Nat)
  | 0, _, lengths => .done lengths.reverse
  | steps + 1, count, lengths =>
    if count = total then .done lengths.reverse
    else if total < count then .fail corrupt
    else
      (code.symbol corrupt).bind fun symbol =>
        let repeated (value least bits : Nat) : Scan (List Nat) :=
          (Scan.bits bits).bind fun more =>
            lengthsFor code total steps (count + least + more)
              (List.replicate (least + more) value ++ lengths)
        if symbol < 16 then lengthsFor code total steps (count + 1) (symbol :: lengths)
        else if symbol = 16 then
          match lengths with
          | [] => .fail corrupt
          | previous :: _ => repeated previous 3 2
        else if symbol = 17 then repeated 0 3 3
        else repeated 0 11 7

/-- Read as many code lengths as there are symbols in both codes. -/
def codeLengths (code : Tree) (total : Nat) : Scan (List Nat) :=
  (lengthsFor code total (total + 1) 0 []).bind fun lengths =>
    if lengths.length = total then .done lengths else .fail corrupt

/-- Read the codes of a block. -/
def givenCodes : Scan Codes := do
  let literalCount := (← Scan.bits 5) + 257
  let distanceCount := (← Scan.bits 5) + 1
  let lengthCount := (← Scan.bits 4) + 4
  Scan.require (literalCount ≤ 286 && distanceCount ≤ 30) corrupt
  let code ← lengthCode lengthCount
  let lengths ← codeLengths code (literalCount + distanceCount)
  let literals ← codeOf (lengths.take literalCount)
  let distances ← codeOf (lengths.drop literalCount)
  return ⟨literals, distances⟩

/-- Bytes as they are, after their number and its complement. -/
def storedBytes : Scan Unit := do
  let count := Bytes.valueLE (← Scan.bytes 2)
  let complement := Bytes.valueLE (← Scan.bytes 2)
  Scan.require (count + complement = 65535) corrupt
  Scan.store count

/-- What follows a block. -/
def afterBlock (last : Bool) : Option Mode := if last then none else some .head

/-- The rest of a block after the bit that marks the last one. -/
def block (last : Bool) : Scan (Option Mode) :=
  (Scan.bits 2).bind fun kind =>
    if kind = 0 then storedBytes.bind fun _ => .done (afterBlock last)
    else if kind = 1 then .done (some (.symbols last fixedCodes))
    else if kind = 2 then givenCodes.bind fun codes => .done (some (.symbols last codes))
    else .fail corrupt

/-- What a symbol of a block says. -/
def interpret (last : Bool) (codes : Codes) (symbol : Nat) : Scan (Option Mode) := do
  if symbol < 256 then
    Scan.put [UInt8.ofNat symbol]
    return some (.symbols last codes)
  else if symbol = 256 then return afterBlock last
  else
    let length ← valueOf lengthSpans (symbol - 257)
    let distance ← valueOf distanceSpans (← codes.distances.symbol corrupt)
    Scan.again distance length
    return some (.symbols last codes)

/-- A unit of deflate data. -/
def unit : Mode → Scan.Need (Option Mode)
  | .head => .bit block
  | .symbols last codes => codes.literals.needSymbol corrupt (interpret last codes)

/-- Deflate data on its own. -/
def format : Format where
  Mode := Mode
  start := .head
  unit
  ending _ _ := .error truncated

end ContentCoding.Deflate
