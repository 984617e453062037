import ContentCoding.Amount
import ContentCoding.Brotli.Words

/-!
# The static dictionary

Words are found by their length and by their place among the words of that length.
The number of words of one length is a power of two.
-/

namespace ContentCoding.Brotli

/-- The logarithms of the numbers of words of each length, from the shortest length on. -/
def wordCountBits : List Nat :=
  [10, 10, 11, 11, 10, 10, 10, 10, 10, 9, 9, 8, 7, 7, 8, 7, 7, 6, 6, 5, 5]

/-- The length of the shortest words. -/
def shortestWord : Nat := 4

/-- The words of one length. -/
structure Shelf where
  /-- Their length. -/
  length : Nat
  /-- The logarithm of their number. -/
  countBits : Nat
  /-- Where the first of them stands. -/
  offset : Nat

/-- The shelves for lengths from some length on, when the first of their words stands
at a given offset. -/
def shelvesFrom (length offset : Nat) : List Nat → List Shelf
  | [] => []
  | bits :: rest =>
    ⟨length, bits, offset⟩ :: shelvesFrom (length + 1) (offset + length * twoTo bits) rest

/-- All words by length. -/
def shelves : Array Shelf := (shelvesFrom shortestWord 0 wordCountBits).toArray

/-- The words of a length, if there are any. -/
def shelf? (length : Nat) : Option Shelf :=
  if length < shortestWord then none else shelves[length - shortestWord]?

/-- A word of a shelf. -/
def Shelf.word (shelf : Shelf) (index : Nat) : Bytes :=
  let first := shelf.offset + index * shelf.length
  (List.range' first shelf.length).map fun place => wordBytes.getD place 0

end ContentCoding.Brotli
