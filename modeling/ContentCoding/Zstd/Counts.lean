import ContentCoding.Amount
import ContentCoding.Encode.BitField
import ContentCoding.Zstd.Fse

/-!
# Shares from counts

A finite state code is made for the symbols that occur in a block. Counts are scaled to
a power of two by rounding, in favour of rare symbols, and what is missing or too much
goes to the most frequent symbol. If that would take too much of it, the shares are given
out anew: one for each rare symbol, and the rest in proportion.
-/

namespace ContentCoding.Zstd.Fse

/-- How often each symbol up to the greatest one occurs. -/
def countsOf (symbols : List Nat) : List Nat :=
  let size := symbols.foldl (fun size symbol => max size (symbol + 1)) 0
  (symbols.foldl (fun counts symbol => counts.modify symbol (· + 1)) (Array.replicate size 0)).toList

/-- The logarithm of the size of a table for so many symbols, the greatest of which is given,
that leaves a margin. -/
def tableLog (limit total greatest margin : Nat) : Nat :=
  let least := min (total.log2 + 1) (greatest.log2 + 2)
  min (max (max (min limit ((total - 1).log2 - margin)) least) 5) 12

/-- The least fraction, in parts of 2^20, from which a small share is rounded up. -/
def roundUpFrom : Array Nat := #[0, 473195, 504333, 520860, 550000, 700000, 750000, 830000]

/-- The share of a count, where the total would have a share of `2 ^ log`. -/
def roundedShare (log step count : Nat) : Nat :=
  let scale := 62 - log
  let share := count * step / twoTo scale
  if share < 8 then
    let rest := count * step - share * twoTo scale
    if twoTo (scale - 20) * roundUpFrom.getD share 0 < rest then share + 1 else share
  else share

/-- The shares that are given out in proportion, out of an amount that has been given out so
far. A share of none stands for a symbol whose share is to be found. -/
def proportionalFrom (log step : Nat) : (given : Nat) → List (Nat × Option Int) → List Int
  | _, [] => []
  | given, (_, some share) :: rest => share :: proportionalFrom log step given rest
  | given, (count, none) :: rest =>
    let after := given + count * step
    ((after / twoTo (62 - log) - given / twoTo (62 - log) : Nat) : Int) ::
      proportionalFrom log step after rest

/-- Give one more to each share in turn, until so many are given, with so many rounds to go. -/
def deal : (rounds : Nat) → (amount : Nat) → List Int → List Int
  | 0, _, shares => shares
  | rounds + 1, amount, shares =>
    let takers := (shares.filter (0 < ·)).length
    if amount ≤ takers || takers = 0 then
      (shares.foldl (fun (left, dealt) share =>
        if 0 < share && 0 < left then (left - 1, (share + 1) :: dealt) else (left, share :: dealt))
        (amount, ([] : List Int))).2.reverse
    else deal rounds (amount - takers) (shares.map fun share => if 0 < share then share + 1 else share)

/-- Settle the shares of counts up to a bound. -/
def settleUpTo (bound : Nat) (entries : List (Nat × Option Int)) : List (Nat × Option Int) :=
  entries.map fun (count, share) =>
    (count, if share.isNone && count ≤ bound then some 1 else share)

/-- Give the first greatest count the rest. -/
def giveGreatest (rest : Nat) (counts : List Nat) (shares : List Int) : List Int :=
  let greatest := counts.foldl max 0
  shares.modify (counts.idxOf greatest) (· + (rest : Int))

/-- Shares given out anew. -/
def secondShares (log total : Nat) (low : Int) (counts : List Nat) : List Int :=
  let unset (entries : List (Nat × Option Int)) := entries.filter fun entry => entry.2.isNone
  let left (entries : List (Nat × Option Int)) : Nat := sumOf ((unset entries).map Prod.fst)
  let free (entries : List (Nat × Option Int)) : Nat :=
    twoTo log - (entries.filter fun entry => entry.2.isSome && entry.1 ≠ 0).length
  let entries := counts.map fun count =>
    (count, if count = 0 then some 0 else if count ≤ total / twoTo log then some low else none)
  let bound := total * 3 / twoTo (log + 1)
  let entries := settleUpTo bound entries
  if free entries = 0 then entries.map fun entry => entry.2.getD 0
  else
    let entries :=
      if bound < left entries / free entries then
        settleUpTo (left entries * 3 / (free entries * 2)) entries
      else entries
    let shares := entries.map fun entry => entry.2.getD 0
    if entries.all fun entry => entry.2.isSome && entry.1 ≠ 0 then
      giveGreatest (free entries) counts shares
    else if left entries = 0 then deal (twoTo log) (free entries) shares
    else
      let half := twoTo (61 - log) - 1
      let step := (twoTo (62 - log) * free entries + half) / left entries
      proportionalFrom log step half entries

/-- The shares of counts in a table of a given size. Rare symbols get a share of `low`. -/
def sharesOf (log : Nat) (low : Int) (counts : List Nat) : Shares :=
  let total := sumOf counts
  let rare := total / twoTo log
  let step := twoTo 62 / total
  let shares : List Int := counts.map fun count =>
    if count = 0 then 0
    else if count ≤ rare then low
    else (roundedShare log step count : Int)
  let spare : Int := twoTo log - sumOf (shares.map cellCount)
  let common := (counts.zip shares).map fun (count, share) => if rare < count then share else 0
  let place := common.idxOf (common.foldl max 0)
  if shares.getD place 0 / 2 ≤ -spare then ⟨log, secondShares log total low counts⟩
  else ⟨log, shares.modify place (· + spare)⟩

/-- Fields for a number of symbols without a share, after one such symbol. -/
def zeroFields (count : Nat) : List BitField :=
  List.replicate (count / 3) ⟨2, 3⟩ ++ [⟨2, count % 3⟩]

/-- Fields for shares of which so much is left to give. After a share of zero comes the number
of further ones. -/
def shareFields : (remaining : Nat) → List Int → List BitField
  | _, [] => []
  | 0, _ => []
  | remaining + 1, share :: rest =>
    let remaining := remaining + 1
    let width := (remaining + 1).log2 + 1
    let short := twoTo width - 2 - remaining
    let value := (share + 1).toNat
    let field : BitField :=
      if value < short then ⟨width - 1, value⟩
      else ⟨width, if twoTo (width - 1) ≤ value then value + short else value⟩
    if share = 0 then
      let zeros := (rest.takeWhile (· = 0)).length
      field :: zeroFields zeros ++ shareFields remaining (rest.drop zeros)
    else field :: shareFields (remaining - cellCount share) rest
termination_by _ shares => shares.length
decreasing_by all_goals simp_wf; try omega

/-- Shares in bytes. -/
def writeShares (shares : Shares) : Bytes :=
  (({} : BitWriter).addAll (⟨4, shares.log - 5⟩ :: shareFields (twoTo shares.log) shares.counts)).align.bytes.toList

/-- A code seen from its writer: the cells of each symbol in ascending order. -/
structure Coder where
  /-- The size of the table is two to this power. -/
  log : Nat
  /-- The cells by symbol. -/
  cells : Array (Array Nat)
  deriving Inhabited

/-- The writer's view of a code. -/
def Coder.ofTable (table : Table) : Coder :=
  let size := table.cells.foldl (fun size cell => max size (cell.symbol + 1)) 0
  ⟨table.log, (table.cells.toList.zipIdx).foldl
    (fun cells (cell, index) => cells.modify cell.symbol (·.push index)) (Array.replicate size #[])⟩

namespace Coder

/-- The state in which a last symbol is written. -/
def start (coder : Coder) (symbol : Nat) : Nat := (coder.cells.getD symbol #[]).getD 0 0

/-- Write a symbol before a state: the bits that lead to the state, and the state that
comes before. -/
def encode (coder : Coder) (symbol state : Nat) : BitField × Nat :=
  let cells := coder.cells.getD symbol #[]
  let value := twoTo coder.log + state
  let bits := value.log2 - cells.size.log2
  let bits := if value / twoTo bits < cells.size then bits - 1 else bits
  (⟨bits, value % twoTo bits⟩, cells.getD (value / twoTo bits - cells.size) 0)

/-- A state in full. -/
def field (coder : Coder) (state : Nat) : BitField := ⟨coder.log, state⟩

end Coder

end ContentCoding.Zstd.Fse
