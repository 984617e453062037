/-!
# Making counts more alike

Code lengths are themselves coded, and a run of equal lengths costs little. So counts that
are nearly equal to their neighbours are replaced by a common value, unless they are part
of a run already.
-/

namespace ContentCoding.Brotli

namespace Smoothing

/-- Give single symbols that do not occur between others that do a count of one. -/
def fillGaps (counts : Array Nat) : Array Nat :=
  (List.range' 1 (counts.size - 2)).foldl (fun counts place =>
    if counts.getD (place - 1) 0 ≠ 0 && counts.getD place 0 = 0 && counts.getD (place + 1) 0 ≠ 0 then
      counts.setIfInBounds place 1
    else counts) counts

/-- For each count, whether it belongs to a run of equal counts that is long enough: five
zeros, or seven times any other. -/
def inRuns (counts : List Nat) : List Bool :=
  (counts.splitBy fun first second => first = second).flatMap fun run =>
    List.replicate run.length (decide ((if run.headD 0 = 0 then 5 else 7) ≤ run.length))

/-- How much a count may differ, in shares of 256, from what a stride allows. -/
def tolerance : Int := 1240

/-- Counts in a row that are alike. -/
structure Stride where
  /-- How many there are. -/
  length : Nat := 0
  /-- Their sum. -/
  sum : Nat := 0
  /-- Around which value the next one should be, in shares of 256. -/
  center : Nat

/-- Replace the counts of a stride that ends before a place, if it is long enough. -/
def collapse (place : Nat) (stride : Stride) (counts : Array Nat) : Array Nat :=
  if 4 ≤ stride.length || (3 ≤ stride.length && stride.sum = 0) then
    let common := (stride.sum + stride.length / 2) / stride.length
    let common := if stride.sum = 0 then 0 else max common 1
    (List.range' (place - stride.length) stride.length).foldl
      (fun counts place => counts.setIfInBounds place common) counts
  else counts

/-- A stride that is about to begin at a place. -/
def beginAt (counts : Array Nat) (place : Nat) : Stride where
  center :=
    let count (place : Nat) : Nat := counts.getD place 0
    if place + 2 < counts.size then
      256 * (count place + count (place + 1) + count (place + 2)) / 3 + 420
    else 256 * count place

/-- Add a count to a stride. -/
def Stride.extend (stride : Stride) (count : Nat) : Stride :=
  let length := stride.length + 1
  let sum := stride.sum + count
  let center := if 4 ≤ length then (256 * sum + length / 2) / length else stride.center
  ⟨length, sum, if length = 4 then center + 120 else center⟩

/-- Whether a stride ends before a place. -/
def endsAt (runs : Array Bool) (counts : Array Nat) (place : Nat) (stride : Stride) : Bool :=
  let off : Int := 256 * (counts.getD place 0 : Int) - stride.center
  runs.getD place true || (place ≠ 0 && runs.getD (place - 1) false) ||
    off < -tolerance || tolerance ≤ off

/-- Replace counts by common values, stride by stride. -/
def level (counts : Array Nat) : Array Nat :=
  let runs := (inRuns counts.toList).toArray
  let (stride, counts) := (List.range counts.size).foldl
    (fun (stride, counts) place =>
      if endsAt runs counts place stride then
        let counts := collapse place stride counts
        ((beginAt counts place).extend (counts.getD place 0), counts)
      else (stride.extend (counts.getD place 0), counts))
    (beginAt counts 0, counts)
  collapse counts.size stride counts

end Smoothing

open Smoothing in
/-- Make counts more alike, if there are many of them. -/
def smooth (counts : Array Nat) : Array Nat :=
  let most := counts.size - (counts.toList.reverse.takeWhile (· = 0)).length
  let used := counts.extract 0 most
  let present := used.toList.filter (· ≠ 0)
  if present.length < 16 then counts
  else
    let filled :=
      if present.any (· < 4) && most - present.length < 6 then fillGaps used else used
    (if present.length < 28 then filled else level filled) ++
      Array.replicate (counts.size - most) 0

end ContentCoding.Brotli
