import ContentCoding.Zstd.PrefixTable

/-!
# Streams of words of a prefix code

Literals are given in one stream or in four. Each stream is read back to front.
A stream by itself must be used up exactly.

Four streams lie one after another behind their lengths. If they are long enough
they are decoded side by side, several words of each in turn. Whether a stream
has gone past its front is then looked at only once, when that has to stop, and
the rest of each stream takes its bits from whatever lies there. So such streams
may have bits left over, or take some from the stream before.

For many literals, words are looked up in pairs, which are taken together where
both are short. That only shows where bits run out.
-/

namespace ContentCoding.Zstd.PrefixTable

/-- The bits that words are looked up by. -/
def width (table : PrefixTable) : Nat := max table.log 11

/-- What a look at the top bits gives. -/
structure Lookup where
  /-- The first symbol. -/
  first : UInt8
  /-- Another one, if its word is looked up with the first. -/
  second : Option UInt8
  /-- The length of the words. -/
  bits : Nat

/-- Look up the next word, or the next two. -/
def lookup (table : PrefixTable) (stack : BitStack) : Lookup :=
  if table.paired then
    let value := stack.peek table.width
    let cell := table.cells.getD (value / twoTo (table.width - table.log)) default
    let left := table.width - cell.bits
    let next := table.cells.getD (value % twoTo left * twoTo table.log / twoTo left) default
    if next.bits ≤ left then ⟨cell.symbol, some next.symbol, cell.bits + next.bits⟩
    else ⟨cell.symbol, none, cell.bits⟩
  else
    let cell := table.cells.getD (stack.peek table.log) default
    ⟨cell.symbol, none, cell.bits⟩

/-- What is left after the last word, if a look gives that many bits. If the look gives a
second word too, the bits may be too few for both. -/
def dropLast (stack : BitStack) (found : Lookup) : BitStack :=
  if found.second.isNone then stack.drop found.bits
  else if 0 < stack.left then { stack with left := max 0 (stack.left - found.bits) }
  else stack

/-- Decode so many symbols after some that are passed along, last one first. -/
def finish (table : PrefixTable) : (count : Nat) → BitStack → Bytes → Bytes × BitStack
  | 0, stack, symbols => (symbols.reverse, stack)
  | 1, stack, symbols =>
    let found := table.lookup stack
    ((found.first :: symbols).reverse, dropLast stack found)
  | count + 2, stack, symbols =>
    match table.lookup stack with
    | ⟨first, none, bits⟩ => table.finish (count + 1) (stack.drop bits) (first :: symbols)
    | ⟨first, some second, bits⟩ =>
      table.finish count (stack.drop bits) (second :: first :: symbols)

/-- Decode so many symbols from one stream, which must use it up. -/
def decode (table : PrefixTable) (count : Nat) (bytes : Bytes) : Except Damage Bytes :=
  match BitStack.ofBytes? bytes with
  | none => .error .data
  | some stack =>
    let (symbols, stack) := table.finish count stack []
    if stack.left = 0 then .ok symbols else .error .data

/-- One of the streams that are decoded side by side. -/
structure Strand where
  /-- Where it starts. -/
  start : Nat
  /-- How many symbols are missing. -/
  count : Nat
  /-- All bytes, and the bits that are left, those in front of the stream included. -/
  stack : BitStack
  /-- The symbols so far, last one first. -/
  symbols : Bytes := []

namespace Strand

/-- The stream between two places of the bytes. It need not have a marker. -/
def between (bytes : Array UInt8) (start stop count : Nat) : Strand :=
  let last := bytes.getD (stop - 1) 0
  let left := if last = 0 then 8 * stop else 8 * (stop - 1) + last.toNat.log2
  { start, count, stack := ⟨bytes, left⟩ }

/-- Decode what so many looks give. -/
def words (table : PrefixTable) : (looks : Nat) → Strand → Strand
  | 0, strand => strand
  | looks + 1, ⟨start, count, stack, symbols⟩ =>
    match table.lookup stack with
    | ⟨first, none, bits⟩ =>
      words table looks ⟨start, count - 1, stack.drop bits, first :: symbols⟩
    | ⟨first, some second, bits⟩ =>
      words table looks ⟨start, count - 2, stack.drop bits, second :: first :: symbols⟩

/-- The first byte that bits may be taken from. -/
def reach (strand : Strand) : Int := (strand.stack.left + 7) / 8

/-- Decode the rest, unless the stream has gone past its front. -/
def complete (table : PrefixTable) (strand : Strand) : Except Damage Bytes :=
  if strand.reach < strand.start then .error .data
  else .ok (table.finish strand.count strand.stack strand.symbols).1

end Strand

/-- How many words of each stream are decoded in turn. -/
def turn : Nat := 5

/-- Decode a turn of each stream, again and again for at most so many times, until at most
so many symbols of the last one are missing. -/
def rounds (table : PrefixTable) (enough : Nat) : (most : Nat) → List Strand → List Strand
  | 0, strands => strands
  | most + 1, strands =>
    if strands.getLast?.all (·.count ≤ enough) then strands
    else rounds table enough most (strands.map (Strand.words table turn))

/-- How many rounds are safe: no stream gets too many symbols, and the first one does not
come to the beginning of the bytes. -/
def safeRounds (table : PrefixTable) (strands : List Strand) : Nat :=
  let bytes := strands.head?.elim 0 fun strand => (strand.reach.toNat - 8) / 7
  strands.foldl
    (fun most strand => min most (strand.count / (if table.paired then 2 * turn else turn))) bytes

/-- Whether no stream has come further down than the one before it. -/
def inOrder (strands : List Strand) : Bool :=
  (strands.zip strands.tail).all fun (strand, next) => strand.reach ≤ next.reach

/-- Decode side by side as long as it is safe, within so many steps. -/
def sideBySide (table : PrefixTable) : (steps : Nat) → List Strand → List Strand
  | 0, strands => strands
  | steps + 1, strands =>
    let most := table.safeRounds strands
    if most = 0 || !inOrder strands then strands
    else
      let missing := strands.getLast?.elim 0 (·.count)
      sideBySide table steps (table.rounds (missing - turn * most) most strands)

/-- Decode so many symbols from four streams, after the lengths of the first three. -/
def decodeFour (table : PrefixTable) (count : Nat) (bytes : Bytes) : Except Damage Bytes := do
  let size1 := Bytes.valueLE (bytes.take 2)
  let size2 := Bytes.valueLE ((bytes.drop 2).take 2)
  let size3 := Bytes.valueLE ((bytes.drop 4).take 2)
  let each := (count + 3) / 4
  let start2 := 6 + size1
  let start3 := start2 + size2
  let start4 := start3 + size3
  if bytes.length < start4 || count < 3 * each then .error .data
  else if table.width = 11 && 8 ≤ size1 && 8 ≤ size2 && 8 ≤ size3 && 8 ≤ bytes.length - start4 &&
      3 * each < count then
    let array := bytes.toArray
    let strands := [
      .between array 6 start2 each,
      .between array start2 start3 each,
      .between array start3 start4 each,
      .between array start4 bytes.length (count - 3 * each)]
    return (← (table.sideBySide count strands).mapM (Strand.complete table)).flatten
  else
    let a ← table.decode each ((bytes.drop 6).take size1)
    let b ← table.decode each ((bytes.drop start2).take size2)
    let c ← table.decode each ((bytes.drop start3).take size3)
    let d ← table.decode (count - 3 * each) (bytes.drop start4)
    return a ++ b ++ c ++ d

/-- What looking up words is expected to cost, by how many sixteenths of their size literals
take in the code: to make a table for single words, to decode 256 literals with it, and the
same for pairs. -/
def costs : List (Nat × Nat × Nat × Nat) := [
  (0, 0, 1, 1), (0, 0, 1, 1), (150, 216, 381, 119), (170, 205, 514, 112),
  (177, 199, 539, 110), (197, 194, 644, 107), (221, 192, 735, 107), (256, 189, 881, 106),
  (359, 188, 1167, 109), (582, 187, 1570, 114), (688, 187, 1712, 122), (825, 186, 1965, 136),
  (976, 185, 2131, 150), (1180, 186, 2070, 175), (1377, 185, 1731, 202), (1412, 185, 1695, 202)]

/-- Whether so many literals, which take so many coded bytes, are looked up in pairs. -/
def favorsPairs (count coded : Nat) : Bool :=
  match costs[if count ≤ coded then 15 else coded * 16 / count]? with
  | none => false
  | some (single, singles, double, doubles) =>
    let paired := double + doubles * (count / 256)
    paired + paired / 32 < single + singles * (count / 256)

end ContentCoding.Zstd.PrefixTable
