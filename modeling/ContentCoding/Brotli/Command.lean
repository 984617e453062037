import ContentCoding.Amount
import ContentCoding.Brotli.BlockSplit

/-!
# Commands and distances

A command says how many literals come next and how long the copy after them is, and it
may say that the copy goes back as far as the last one. Distances are given anew, or by
reference to the last four.
-/

namespace ContentCoding.Brotli

open Huffman

/-- The numbers of literals. -/
def insertSpans : Array Span :=
  (Span.seriesFrom 0
    [0, 0, 0, 0, 0, 0, 1, 1, 2, 2, 3, 3, 4, 4, 5, 5, 6, 7, 8, 9, 10, 12, 14, 24]).toArray

/-- The lengths of copies. -/
def copySpans : Array Span :=
  (Span.seriesFrom 2
    [0, 0, 0, 0, 0, 0, 0, 0, 1, 1, 2, 2, 3, 3, 4, 4, 5, 5, 6, 7, 8, 9, 10, 24]).toArray

/-- The number of command symbols. -/
def commandSymbols : Nat := 704

/-- The first ranges of the two numbers for each group of 64 command symbols. -/
def commandGroups : Array (Nat × Nat) :=
  #[(0, 0), (0, 8), (0, 0), (0, 8), (8, 0), (8, 8), (0, 16), (16, 0), (8, 16), (16, 8), (16, 16)]

/-- A command. -/
structure Command where
  /-- The number of literals. -/
  inserted : Nat
  /-- The length of the copy. -/
  copied : Nat
  /-- Whether the distance is that of the last copy. -/
  reuses : Bool

/-- Read a command. -/
def Command.read (code : Tree) : Scan Command := do
  let symbol ← code.symbol invalid
  let (insertBase, copyBase) := commandGroups.getD (symbol / 64) (0, 0)
  let inserted ← valueIn insertSpans (insertBase + symbol / 8 % 8)
  let copied ← valueIn copySpans (copyBase + symbol % 8)
  return ⟨inserted, copied, symbol < 128⟩

/-- The distances of the last four copies, the latest first. -/
structure Recent where
  /-- The last one. -/
  first : Nat := 4
  /-- The one before. -/
  second : Nat := 11
  /-- The third. -/
  third : Nat := 15
  /-- The fourth. -/
  fourth : Nat := 16

/-- Remember a distance. -/
def Recent.push (recent : Recent) (distance : Nat) : Recent :=
  ⟨distance, recent.first, recent.second, recent.third⟩

/-- How distances are written. -/
structure DistanceRule where
  /-- How many low bits of a distance are part of its symbol. -/
  postfixBits : Nat := 0
  /-- How many distances have symbols of their own. -/
  direct : Nat := 0
  /-- Whether the window is one of those that may be very large. -/
  wide : Bool := false

namespace DistanceRule

/-- Read how distances are written. -/
def read (wide : Bool) : Scan DistanceRule := do
  let postfixBits ← Scan.bits 2
  let direct ← Scan.bits 4
  return ⟨postfixBits, direct * twoTo postfixBits, wide⟩

/-- The last distance symbol that may have a word if windows may be very large, less those
for direct distances: the least number of direct distances for which it is different, and the
symbol. -/
def wideBounds : List (Nat × Nat) := [(0, 73), (4, 126), (12, 228), (28, 424)]

/-- The number of distance symbols that may have words if windows may be very large. -/
def usableIfWide (rule : DistanceRule) : Nat :=
  let (bound, last) := wideBounds.getD rule.postfixBits (0, 73)
  let step := twoTo rule.postfixBits
  if rule.direct < bound then rule.direct + last + step
  else if bound + step < rule.direct then rule.direct + last
  else bound + last + step

/-- The distance symbols. -/
def alphabet (rule : DistanceRule) : Alphabet :=
  if rule.wide then
    { size := 16 + rule.direct + 124 * twoTo rule.postfixBits, usable := rule.usableIfWide }
  else { size := 16 + rule.direct + 48 * twoTo rule.postfixBits }

end DistanceRule

/-- A distance as a symbol gives it. -/
inductive Reach
  /-- The distance of the last copy. -/
  | same
  /-- Another distance. -/
  | back (distance : Nat)

/-- The distances near the last two: the last one and the one before, with an amount that
is added or taken away. -/
def nearby (distance index : Nat) : Nat :=
  let amount := index / 2 + 1
  if index % 2 = 0 then distance - amount else distance + amount

/-- Read a distance. -/
def DistanceRule.reach (rule : DistanceRule) (recent : Recent) (code : Tree) : Scan Reach := do
  let symbol ← code.symbol invalid
  let known (distance : Nat) : Scan Reach :=
    if distance = 0 then .fail invalid else return .back distance
  if symbol = 0 then return .same
  else if symbol = 1 then known recent.second
  else if symbol = 2 then known recent.third
  else if symbol = 3 then known recent.fourth
  else if symbol < 10 then known (nearby recent.first (symbol - 4))
  else if symbol < 16 then known (nearby recent.second (symbol - 10))
  else if symbol < 16 + rule.direct then known (symbol - 15)
  else
    let index := symbol - 16 - rule.direct
    let high := index / twoTo rule.postfixBits
    let bits := 1 + high / 2
    let offset := (2 + high % 2) * twoTo bits - 4
    let more ← Scan.bits bits
    known ((offset + more) * twoTo rule.postfixBits + index % twoTo rule.postfixBits + rule.direct + 1)

end ContentCoding.Brotli
