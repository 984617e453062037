import ContentCoding.Amount
import ContentCoding.Huffman.Lengths
import ContentCoding.Zstd.Counts
import ContentCoding.Zstd.Literals

/-!
# Prefix codes for literals

The lengths of code words come from counts. Symbols are sorted by count, rarest last. If
words are too long they are cut to the limit, and the space that this takes too much is
won back by making shorter words longer, where it costs least.
-/

namespace ContentCoding.Zstd.LiteralCode

/-- A symbol with its count. -/
structure Entry where
  /-- How often it occurs. -/
  count : Nat
  /-- The symbol. -/
  symbol : Nat
  deriving Inhabited, Repr

/-- Counts below this one are told apart in the first pass of sorting. -/
def distinctBelow : Nat := 165

/-- Move the entries of greater counts than the last one to the front of a part of an array,
and the last one behind them. The result also holds its new place. -/
def partition (entries : Array Entry) (low high : Nat) : Array Entry × Nat :=
  let pivot := (entries.getD high default).count
  let (entries, front) := (List.range' low (high - low)).foldl
    (fun (entries, front) place =>
      if pivot < (entries.getD place default : Entry).count then
        (entries.swapIfInBounds front place, front + 1)
      else (entries, front)) (entries, low)
  (entries.swapIfInBounds front high, front)

/-- Sort a part of an array by descending counts, and keep the order of equal counts. -/
def sortPart (entries : Array Entry) (low high : Nat) : Array Entry :=
  let sorted := ((entries.extract low (high + 1)).toList).mergeSort
    fun first second => second.count ≤ first.count
  (sorted.zipIdx low).foldl (fun entries (entry, place) => entries.setIfInBounds place entry) entries

/-- Sort a part of an array by descending counts, with so many steps to go. Small parts keep
the order of equal counts, unless they are what is left of larger ones. -/
def quickSort : (steps : Nat) → (fresh : Bool) → Array Entry → (low high : Nat) → Array Entry
  | 0, _, entries, _, _ => entries
  | steps + 1, fresh, entries, low, high =>
    if high ≤ low then entries
    else if fresh && high < low + 8 then sortPart entries low high
    else
      let (entries, place) := partition entries low high
      let left (fresh : Bool) (entries : Array Entry) : Array Entry :=
        if place = low then entries else quickSort steps fresh entries low (place - 1)
      let right (fresh : Bool) (entries : Array Entry) : Array Entry :=
        quickSort steps fresh entries (place + 1) high
      if place - low < high - place then right false (left true entries)
      else left false (right true entries)

/-- Sort entries of large counts by descending counts. -/
def sortBucket (entries : List Entry) : List Entry :=
  (quickSort (entries.length + 1) true entries.toArray 0 (entries.length - 1)).toList

/-- Sort entries by descending counts. Large counts are first sorted by their size in bits. -/
def sort (entries : List Entry) : List Entry :=
  let (large, small) := entries.partition fun entry => distinctBelow ≤ entry.count
  (List.range 32).reverse.flatMap (fun bits =>
    sortBucket (large.filter fun entry => entry.count.log2 = bits)) ++
    small.mergeSort fun first second => second.count ≤ first.count

/-- Lengths that are being made to fit a limit. They belong to entries sorted by descending
counts. -/
structure Fitting where
  /-- The lengths. -/
  lengths : Array Nat
  /-- For each number of bits below the limit, the last entry with words that much shorter. -/
  last : Array (Option Nat)
  /-- The space that is still taken too much. -/
  debt : Int

/-- The last entry of each length below the limit, among those up to a given one. -/
def lastOfEach (limit : Nat) (lengths : Array Nat) (count : Nat) : Array (Option Nat) :=
  (List.range count).foldl (fun last place =>
    let length := lengths.getD place 0
    if length < limit then last.setIfInBounds (limit - length) (some place) else last)
    (Array.replicate (limit + 2) none)

/-- By how many bits below the limit the words are among which one is to be made longer: it
should win back what is asked for, but two rarer words may cost less. -/
def choose (counts : Array Nat) (last : Array (Option Nat)) : (bits : Nat) → Nat
  | 0 => 1
  | 1 => 1
  | bits + 2 =>
    match last.getD (bits + 2) none, last.getD (bits + 1) none with
    | none, _ => choose counts last (bits + 1)
    | some _, none => bits + 2
    | some high, some low =>
      if counts.getD high 0 ≤ 2 * counts.getD low 0 then bits + 2
      else choose counts last (bits + 1)

/-- The first of some numbers of bits for which there is an entry, with so many steps to go. -/
def firstPresent (last : Array (Option Nat)) : (steps : Nat) → (bits : Nat) → Nat
  | 0, bits => bits
  | steps + 1, bits =>
    if (last.getD bits none).isSome then bits else firstPresent last steps (bits + 1)

/-- Make words longer until the debt is paid, with so many steps to go. -/
def payBack (limit : Nat) (counts : Array Nat) : (steps : Nat) → Fitting → Fitting
  | 0, fitting => fitting
  | steps + 1, ⟨lengths, last, debt⟩ =>
    if debt ≤ 0 then ⟨lengths, last, debt⟩
    else
      let bits := choose counts last (debt.toNat.log2 + 1)
      let bits := firstPresent last (limit + 2) bits
      match last.getD bits none with
      | none => ⟨lengths, last, debt⟩
      | some place =>
        let lengths := lengths.modify place (· + 1)
        let last :=
          if (last.getD (bits - 1) none).isNone then last.setIfInBounds (bits - 1) (some place)
          else last
        let before :=
          if place = 0 || lengths.getD (place - 1) 0 + bits ≠ limit then none
          else some (place - 1)
        payBack limit counts steps ⟨lengths, last.setIfInBounds bits before, debt - twoTo (bits - 1)⟩

/-- Make words of the greatest length shorter until nothing is left over, with so many steps
to go. -/
def giveBack (limit : Nat) : (steps : Nat) → Fitting → Fitting
  | 0, fitting => fitting
  | steps + 1, ⟨lengths, last, debt⟩ =>
    if 0 ≤ debt then ⟨lengths, last, debt⟩
    else
      let place := match last.getD 1 none with
        | some place => place + 1
        | none => (lengths.toList.takeWhile (· < limit)).length
      giveBack limit steps
        ⟨lengths.modify place (· - 1), last.setIfInBounds 1 (some place), debt + 1⟩

/-- Make lengths, in ascending order, fit a limit. -/
def fit (limit : Nat) (counts lengths : Array Nat) : Array Nat :=
  let longest := lengths.foldl max 0
  if longest ≤ limit then lengths
  else
    let cost := twoTo (longest - limit)
    let debt := sumOf (lengths.toList.map fun length =>
      if limit < length then cost - twoTo (longest - length) else 0) / cost
    let lengths := lengths.map (min · limit)
    let shorter := (lengths.toList.filter (· < limit)).length
    let fitting := payBack limit counts (twoTo limit) ⟨lengths, lastOfEach limit lengths shorter, debt⟩
    (giveBack limit lengths.size fitting).lengths

/-- Lengths of code words, no greater than a limit, for symbols with given counts, at least
two of which are not zero. -/
def lengthsOf (limit : Nat) (counts : List Nat) : List Nat :=
  let entries := sort ((counts.zipIdx.filter fun (count, _) => count ≠ 0).map fun (count, symbol) =>
    ⟨count, symbol⟩)
  let sorted := entries.map Entry.count
  let words := Huffman.shortestCode false (entries.length - 1)
    (entries.reverse.map fun entry => .single entry.count entry.symbol) []
  let depths := (words.map Huffman.Word.length).mergeSort
  let lengths := fit limit sorted.toArray depths.toArray
  (entries.zip lengths.toList).foldl (fun all (entry, length) => all.set entry.symbol length)
    (List.replicate counts.length 0)

/-- The code words of a table by symbol, to be read from the highest bit down. -/
def wordsOf (table : PrefixTable) : Array BitField :=
  (table.cells.toList.zipIdx).foldl
    (fun words (cell, index) =>
      words.setIfInBounds cell.symbol.toNat ⟨cell.bits, index / twoTo (table.log - cell.bits)⟩)
    (Array.replicate 256 ⟨0, 0⟩)

/-- The weights of code lengths. -/
def weightsOf (lengths : List Nat) : List Nat :=
  let longest := lengths.foldl max 0
  lengths.map fun length => if length = 0 then 0 else longest + 1 - length

/-- Fields read from the last one down, as bytes: the first field to be read is written last,
and a marker after it. -/
def stackBytes (fields : List BitField) : Bytes :=
  ((({} : BitWriter).addAll fields.reverse).add ⟨1, 1⟩).align.bytes.toList

/-- Write symbols with two states in turn, the later ones first. The fields so far are in the
order in which they are read. -/
def alternate (coder : Fse.Coder) : (symbols : List Nat) → (state other : Nat) → List BitField →
    (Nat × Nat × List BitField)
  | [], state, other, fields => (state, other, fields)
  | symbol :: earlier, state, other, fields =>
    let (field, next) := coder.encode symbol state
    alternate coder earlier other next (field :: fields)

/-- Weights in a finite state code, if they are worth it. -/
def codedWeights (weights : List Nat) : Option Bytes :=
  let counts := Fse.countsOf weights
  let most := counts.foldl max 0
  if weights.length ≤ 2 || most = weights.length || most = 1 then none
  else
    let log := Fse.tableLog 6 weights.length (counts.length - 1) 2
    let shares := Fse.sharesOf log 1 counts
    let coder := Fse.Coder.ofTable (Fse.tableOf shares)
    match weights.reverse with
    | last :: before :: earlier =>
      let (second, first, fields) :=
        alternate coder earlier (coder.start last) (coder.start before) []
      some (Fse.writeShares shares ++ stackBytes (coder.field first :: coder.field second :: fields))
    | _ => none

/-- Weights in four bits each. -/
def nibbleBytes : List Nat → Bytes
  | [] => []
  | [weight] => [UInt8.ofNat (16 * weight)]
  | first :: second :: rest => UInt8.ofNat (16 * first + second) :: nibbleBytes rest

/-- The description of a code by the lengths of its words, without that of the last one. -/
def describe (lengths : List Nat) : Option Bytes :=
  let weights := (weightsOf lengths).dropLast
  let plain : Option Bytes :=
    if 128 < weights.length then none
    else some (UInt8.ofNat (127 + weights.length) :: nibbleBytes weights)
  match codedWeights weights with
  | some coded =>
    if 1 < coded.length && coded.length < weights.length / 2 then
      some (UInt8.ofNat coded.length :: coded)
    else plain
  | none => plain

end ContentCoding.Zstd.LiteralCode
