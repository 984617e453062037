import ContentCoding.Amount
import ContentCoding.Brotli.PrefixCode
import ContentCoding.Huffman.Lengths

/-!
# Writing codes

A code is made for symbols that occur given numbers of times, and written in one of the
two forms in which codes are given. The lengths of its words have a code of their own, in
which runs of equal lengths are short, if there are enough of them.
-/

namespace ContentCoding.Brotli

open Huffman

/-- A code as it is written, with its words by symbol. -/
structure WrittenCode where
  /-- What gives the code. -/
  description : List BitField
  /-- The words. -/
  words : Array BitField

namespace CodeWriter

/-- Lengths of words for symbols with given counts, none longer than a limit. While one is
longer, rare symbols are counted as though they occurred more often. The attempts are
those that are left. -/
def lengthsFor (limit : Nat) (counts : List Nat) : (attempts : Nat) → (least : Nat) → List Nat
  | 0, _ => []
  | attempts + 1, least =>
    let singles := (counts.zipIdx.filter fun (count, _) => count ≠ 0).map
      fun (count, symbol) => Group.single (max count least) symbol
    let words := shortestCode true (singles.length - 1)
      (singles.reverse.mergeSort fun first second => first.count ≤ second.count) []
    if limit < (words.map Word.length).foldl max 0 then
      lengthsFor limit counts attempts (2 * least)
    else
      words.foldl (fun lengths word => lengths.set word.symbol (max word.length 1))
        (List.replicate counts.length 0)

/-- Lengths of words for symbols with given counts, none longer than a limit. -/
def limited (limit : Nat) (counts : List Nat) : List Nat :=
  lengthsFor limit counts ((counts.foldl max 0).log2 + 2) 1

/-- Put the symbol with the shortest word first, by exchanging the first symbol with
each one that has a shorter word. -/
def bringForward (lengths : Array Nat) : Nat → List Nat → Nat × List Nat
  | first, [] => (first, [])
  | first, symbol :: rest =>
    if lengths.getD symbol 0 < lengths.getD first 0 then
      let (shortest, rest) := bringForward lengths symbol rest
      (shortest, first :: rest)
    else
      let (shortest, rest) := bringForward lengths first rest
      (shortest, symbol :: rest)

/-- Symbols in the order of the lengths of their words, with so many steps to go. -/
def inOrder (lengths : Array Nat) : (steps : Nat) → List Nat → List Nat
  | 0, symbols => symbols
  | _, [] => []
  | steps + 1, symbol :: rest =>
    let (shortest, rest) := bringForward lengths symbol rest
    shortest :: inOrder lengths steps rest

/-- A code that lists two to four symbols. -/
def listing (width : Nat) (lengths : Array Nat) (symbols : List Nat) : List BitField :=
  let symbols := inOrder lengths symbols.length symbols
  let shape : List BitField :=
    if symbols.length = 4 then
      [⟨1, if lengths.getD (symbols.headD 0) 0 = 1 then 1 else 0⟩]
    else []
  ⟨2, 1⟩ :: ⟨2, symbols.length - 1⟩ :: symbols.map (fun symbol => ⟨width, symbol⟩) ++ shape

/-- A length, or a repetition with its digit. -/
structure Item where
  /-- The symbol for it. -/
  symbol : Nat
  /-- The digit. -/
  digit : BitField := ⟨0, 0⟩

/-- The digits of a repetition, highest one first, with so many steps to go. -/
def repetition (symbol width : Nat) : (steps : Nat) → (count : Nat) → List Item → List Item
  | 0, _, items => items
  | steps + 1, count, items =>
    let items := ⟨symbol, ⟨width, count % twoTo width⟩⟩ :: items
    let rest := count / twoTo width
    if rest = 0 then items else repetition symbol width steps (rest - 1) items

/-- A length to be given so many times again. A certain number of times is one too many for
one digit, so that one is given by itself. -/
def again (length symbol width count : Nat) : List Item :=
  let (first, count) : List Item × Nat :=
    if count = 3 + twoTo width then ([⟨length, ⟨0, 0⟩⟩], count - 1) else ([], count)
  first ++
    if count < 3 then List.replicate count ⟨length, ⟨0, 0⟩⟩
    else repetition symbol width count (count - 3) []

/-- A run of equal lengths after a length other than zero. -/
def runItems (previous length count : Nat) : List Item :=
  if length = 0 then again 0 17 3 count
  else if length = previous then again length 16 2 count
  else ⟨length, ⟨0, 0⟩⟩ :: again length 16 2 (count - 1)

/-- Lengths as items. Runs of zeros, and of other lengths, are joined or not. -/
def itemsOf (joinsZeros joinsOthers : Bool) : (previous : Nat) → List (List Nat) → List Item
  | _, [] => []
  | previous, run :: rest =>
    let length := run.headD 0
    let items :=
      if if length = 0 then joinsZeros else joinsOthers then runItems previous length run.length
      else List.replicate run.length ⟨length, ⟨0, 0⟩⟩
    items ++ itemsOf joinsZeros joinsOthers (if length = 0 then previous else length) rest

/-- Whether runs are long enough on average. -/
def paysToJoin (runs : List (List Nat)) : Bool :=
  2 * (runs.length + 1) < sumOf (runs.map List.length)

/-- The items for lengths. A short list has no runs joined. -/
def items (lengths : List Nat) : List Item :=
  let used := (lengths.reverse.dropWhile (· = 0)).reverse
  let runs := used.splitBy fun first second => first = second
  let (zeros, others) := runs.partition fun run => run.headD 0 = 0
  let long := decide (50 < lengths.length)
  itemsOf (long && paysToJoin (zeros.filter fun run => 3 ≤ run.length))
    (long && paysToJoin (others.filter fun run => 4 ≤ run.length)) 8 runs

/-- The words of the fixed code for the lengths of words for lengths. -/
def lengthLengthWords : Array BitField := lengthLengthCode.wordsFor 6

/-- A code that gives the lengths of its words. -/
def measured (lengths : List Nat) : List BitField :=
  let items := items lengths
  let counts := items.foldl (fun counts item => counts.modify item.symbol (· + 1))
    (Array.replicate 18 0)
  let several := decide (1 < (counts.toList.filter (· ≠ 0)).length)
  let lengthLengths := limited 5 counts.toList
  let words :=
    if several then (ofLengths 5 lengthLengths).tree.wordsFor 18 else Array.replicate 18 ⟨0, 0⟩
  let ordered := lengthOrder.map fun symbol => lengthLengths.getD symbol 0
  let skipped :=
    match ordered with
    | 0 :: 0 :: 0 :: _ => 3
    | 0 :: 0 :: _ => 2
    | _ => 0
  let given := if several then (ordered.reverse.dropWhile (· = 0)).reverse else ordered
  ⟨2, skipped⟩ :: (given.drop skipped).map (fun length => lengthLengthWords.getD length default) ++
    items.flatMap fun item => [words.getD item.symbol default, item.digit]

end CodeWriter

open CodeWriter in
/-- Make and write a code for symbols that occur given numbers of times. -/
def writeCode (counts : List Nat) : WrittenCode :=
  let size := counts.length
  let width := if size ≤ 1 then 0 else (size - 1).log2 + 1
  match (counts.zipIdx.filter fun (count, _) => count ≠ 0).map Prod.snd with
  | [] => ⟨[⟨4, 1⟩, ⟨width, 0⟩], Array.replicate size ⟨0, 0⟩⟩
  | [only] => ⟨[⟨4, 1⟩, ⟨width, only⟩], Array.replicate size ⟨0, 0⟩⟩
  | symbols =>
    let lengths := limited maxLength counts
    ⟨if symbols.length ≤ 4 then listing width lengths.toArray symbols else measured lengths,
      (ofLengths maxLength lengths).tree.wordsFor size⟩

end ContentCoding.Brotli
