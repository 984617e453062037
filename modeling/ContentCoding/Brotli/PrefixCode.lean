import ContentCoding.Amount
import ContentCoding.Brotli.Damage
import ContentCoding.Huffman.Code

/-!
# Codes in a brotli stream

A code over a given number of symbols comes in one of two forms. A short form lists
up to four symbols, which is enough to know the code. The long form gives the length
of every code word, in a code of its own whose lengths come first.

Lengths are counted in shares of the whole code space. Reading stops as soon as the
space is used up, and the code is valid only if it then is used up exactly.
-/

namespace ContentCoding.Brotli

open Huffman

/-- The longest code word. -/
def maxLength : Nat := 15

/-- Symbols listed one after another. -/
def listedSymbols (bits : Nat) : (count : Nat) → Scan (List Nat)
  | 0 => .done []
  | count + 1 => do
    let symbol ← Scan.bits bits
    let rest ← listedSymbols bits count
    return symbol :: rest

/-- Two symbols in their order. -/
def pair (first second : Nat) : Tree :=
  .node (.leaf (min first second)) (.leaf (max first second))

/-- A code of up to four symbols. Four symbols have words of one length unless the next
bit is set. -/
def shortCode : List Nat → Scan Tree
  | [only] => .done (.leaf only)
  | [first, second] => .done (pair first second)
  | [first, second, third] => .done (.node (.leaf first) (pair second third))
  | [first, second, third, fourth] => do
    if (← Scan.bits 1) = 1 then
      return .node (.leaf first) (.node (.leaf second) (pair third fourth))
    else
      match [first, second, third, fourth].mergeSort with
      | [a, b, c, d] => return .node (pair a b) (pair c d)
      | _ => .fail invalid
  | _ => .fail invalid

/-- The symbols of a code. -/
structure Alphabet where
  /-- The number of symbols, by which symbols are numbered. -/
  size : Nat
  /-- The number of symbols that may have words. The others come last. -/
  usable : Nat := size

/-- A code that lists its symbols, after the two bits that say so. -/
def listedCode (alphabet : Alphabet) : Scan Tree := do
  let count := (← Scan.bits 2) + 1
  let symbols ← listedSymbols ((alphabet.size - 1).log2 + 1) count
  Scan.require (symbols.all (· < alphabet.usable) && decide symbols.Nodup) invalid
  shortCode symbols

/-- The order in which the lengths of words for lengths are given. -/
def lengthOrder : List Nat := [1, 2, 3, 4, 0, 5, 17, 6, 16, 7, 8, 9, 10, 11, 12, 13, 14, 15]

/-- The fixed code for the lengths of words for lengths. -/
def lengthLengthCode : Tree :=
  .node (.node (.leaf 0) (.leaf 3))
    (.node (.leaf 4) (.node (.leaf 2) (.node (.leaf 1) (.leaf 5))))

/-- The share of a code space of some size that a word of a given length takes. -/
def share (space length : Nat) : Nat := if length = 0 then 0 else space / twoTo length

/-- Lengths of words for lengths, with the symbols that they belong to, as long as less
than the whole of a space of 32 is used. -/
def lengthLengths : (order : List Nat) → (used : Nat) → Scan (List (Nat × Nat))
  | [], _ => .done []
  | symbol :: order, used =>
    if 32 ≤ used then .done []
    else do
      let length ← lengthLengthCode.symbol invalid
      let rest ← lengthLengths order (used + share 32 length)
      return (symbol, length) :: rest

/-- The code in which lengths are given. If it has one word, that word is empty. -/
def lengthCode (skipped : Nat) : Scan Tree := do
  let given ← lengthLengths (lengthOrder.drop skipped) 0
  match given.filter fun (_, length) => length ≠ 0 with
  | [(only, _)] => return .leaf only
  | words =>
    Scan.require (sumOf (words.map fun (_, length) => share 32 length) = 32) invalid
    let lengths := (List.range 18).map fun symbol => (given.lookup symbol).getD 0
    return (ofLengths 5 lengths).tree

/-- Lengths that are being read. -/
structure LengthRun where
  /-- The lengths so far, last one first. -/
  lengths : List Nat := []
  /-- How many there are. -/
  count : Nat := 0
  /-- How much of a space of 2^15 they use. -/
  used : Nat := 0
  /-- The last length other than zero. -/
  previous : Nat := 8
  /-- How often the last length has been repeated by the latest symbols. -/
  repeats : Nat := 0
  /-- The length that was repeated. -/
  repeated : Nat := 0

namespace LengthRun

/-- Add one length. -/
def single (run : LengthRun) (length : Nat) : LengthRun :=
  { run with
    lengths := length :: run.lengths
    count := run.count + 1
    used := run.used + share (twoTo maxLength) length
    previous := if length = 0 then run.previous else length
    repeats := 0 }

/-- Add a length repeatedly. Symbols that go on repeating one length make up digits of
one number. -/
def again (run : LengthRun) (length bits digit : Nat) : LengthRun :=
  let before := if length = run.repeated then run.repeats else 0
  let repeats := (before - 2) * twoTo bits + digit + 3
  { run with
    lengths := List.replicate (repeats - before) length ++ run.lengths
    count := run.count + (repeats - before)
    used := run.used + (repeats - before) * share (twoTo maxLength) length
    repeats
    repeated := length }

end LengthRun

/-- Read lengths until all symbols have one or the space is used up, with so many steps
to go. -/
def symbolLengths (code : Tree) (size : Nat) : (steps : Nat) → LengthRun → Scan LengthRun
  | 0, run => .done run
  | steps + 1, run =>
    if size ≤ run.count || twoTo maxLength ≤ run.used then .done run
    else
      (code.symbol invalid).bind fun symbol =>
        if symbol < 16 then symbolLengths code size steps (run.single symbol)
        else
          (Scan.bits (symbol - 14)).bind fun digit =>
            symbolLengths code size steps
              (run.again (if symbol = 16 then run.previous else 0) (symbol - 14) digit)

/-- A code that gives the lengths of its words, leaving out as many of the first lengths
of words for lengths as are skipped. -/
def measuredCode (alphabet : Alphabet) (skipped : Nat) : Scan Tree := do
  let code ← lengthCode skipped
  let run ← symbolLengths code alphabet.usable alphabet.usable {}
  Scan.require (run.count ≤ alphabet.usable && run.used = twoTo maxLength) invalid
  return (ofLengths maxLength run.lengths.reverse).tree

/-- A code over an alphabet. -/
def givenCode (alphabet : Alphabet) : Scan Tree := do
  match ← Scan.bits 2 with
  | 1 => listedCode alphabet
  | skipped => measuredCode alphabet skipped

/-- Several codes over an alphabet. -/
def givenCodes (alphabet : Alphabet) : (count : Nat) → Scan (List Tree)
  | 0 => .done []
  | count + 1 => do
    let code ← givenCode alphabet
    let rest ← givenCodes alphabet count
    return code :: rest

end ContentCoding.Brotli
