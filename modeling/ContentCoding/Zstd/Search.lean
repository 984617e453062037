import ContentCoding.Amount
import ContentCoding.Bytes

/-!
# Looking for sequences

Each place is entered into two tables, by its next eight bytes and by its next five, and
each table remembers the latest place only. A place is looked up in both before the
search goes on. It also looks whether data goes on as it did one offset back, and it takes
longer strides the longer nothing has been found.

Place zero stands for none, so no copy is found at the first byte, though a copy that was
found may be extended down to it.
-/

namespace ContentCoding.Zstd

/-- The latest places by what follows there. -/
structure Places where
  /-- Places by eight bytes. -/
  long : Array Nat
  /-- Places by five bytes. -/
  short : Array Nat

namespace Places

/-- The logarithm of the size of the table of long strings. -/
def longLog : Nat := 17

/-- The logarithm of the size of the table of short strings. -/
def shortLog : Nat := 16

/-- No places. -/
def none : Places := ⟨Array.replicate (twoTo longLog) 0, Array.replicate (twoTo shortLog) 0⟩

/-- Enter a place under long and short bytes. -/
def enter (places : Places) (long short place : Nat) : Places :=
  match places with
  | ⟨longs, shorts⟩ => ⟨longs.setIfInBounds long place, shorts.setIfInBounds short place⟩

/-- Enter a place under long bytes. -/
def enterLong (places : Places) (long place : Nat) : Places :=
  match places with
  | ⟨longs, shorts⟩ => ⟨longs.setIfInBounds long place, shorts⟩

/-- Enter a place under short bytes. -/
def enterShort (places : Places) (short place : Nat) : Places :=
  match places with
  | ⟨longs, shorts⟩ => ⟨longs, shorts.setIfInBounds short place⟩

end Places

/-- So many bytes from a place on as a number, least significant first. -/
def wordAt (data : Array UInt8) : (count : Nat) → (place : Nat) → UInt64
  | 0, _ => 0
  | count + 1, place =>
    (data.getD place 0).toUInt64 ||| (wordAt data count (place + 1) <<< 8)

/-- The index of the eight bytes at a place. -/
def longIndex (data : Array UInt8) (place : Nat) : Nat :=
  ((wordAt data 8 place * 0xCF1BBCDCB7A56463) >>> (64 - Places.longLog.toUInt64)).toNat

/-- The index of the five bytes at a place. -/
def shortIndex (data : Array UInt8) (place : Nat) : Nat :=
  (((wordAt data 5 place <<< 24) * 889523592379) >>> (64 - Places.shortLog.toUInt64)).toNat

/-- Whether so many bytes agree at two places. -/
def agrees (data : Array UInt8) (count place other : Nat) : Bool :=
  wordAt data count place == wordAt data count other

/-- How many bytes agree from two places on, up to a limit. -/
def agreement (data : Array UInt8) : (limit : Nat) → (place other : Nat) → Nat
  | 0, _, _ => 0
  | limit + 1, place, other =>
    if data.getD place 0 = data.getD other 0 then
      agreement data limit (place + 1) (other + 1) + 1
    else 0

/-- How many bytes agree before two places, up to a limit. -/
def agreementBefore (data : Array UInt8) : (limit : Nat) → (place other : Nat) → Nat
  | 0, _, _ => 0
  | limit + 1, place, other =>
    if data.getD (place - 1) 0 = data.getD (other - 1) 0 then
      agreementBefore data limit (place - 1) (other - 1) + 1
    else 0

/-- A copy that has been found. -/
structure Match where
  /-- Where it begins. -/
  place : Nat
  /-- How long it is. -/
  length : Nat
  /-- How far back it goes, if not as far as the last one. -/
  offset : Option Nat
  /-- The place from which it was found. -/
  origin : Nat

/-- A part of data to be divided into sequences. -/
structure Stretch where
  /-- The data, of which the part is the end. -/
  data : Array UInt8
  /-- How far back the last copy went, or zero. -/
  last : Nat
  /-- Where the last copy ended. -/
  anchor : Nat

namespace Stretch

/-- A copy of what stands at another place, where some bytes are known to agree, extended
in both directions. -/
def extend (stretch : Stretch) (known place other origin : Nat) : Match :=
  let after := agreement stretch.data (stretch.data.size - (place + known)) (place + known)
    (other + known)
  let before := agreementBefore stretch.data (min (place - stretch.anchor) other) place other
  ⟨place - before, before + known + after, some (place - other), origin⟩

/-- Whether a place leaves room for eight bytes. -/
def hasRoom (stretch : Stretch) (place : Nat) : Bool := place + 8 ≤ stretch.data.size

/-- Look for a copy from a place on, with so many steps to go. The next place to be looked
at comes after it, the stride grows there where it says, and the place has been looked up
in the table of long strings. -/
def seek (stretch : Stretch) : (steps : Nat) → Places → (place next stride growth : Nat) →
    (long candidate : Nat) → Option Match × Places
  | 0, places, _, _, _, _, _, _ => (none, places)
  | steps + 1, places, place, next, stride, growth, long, candidate =>
    let data := stretch.data
    let short := shortIndex data place
    let shortCandidate := places.short.getD short 0
    let places := places.enter long short place
    if 0 < stretch.last && agrees data 4 (place + 1 - stretch.last) (place + 1) then
      let length := agreement data (data.size - (place + 5)) (place + 5) (place + 5 - stretch.last)
      (some ⟨place + 1, length + 4, none, place⟩, places)
    else
      let nextLong := longIndex data next
      let mark (places : Places) : Places :=
        if stride < 4 then places.enterLong nextLong next else places
      if 0 < candidate && agrees data 8 candidate place then
        (some (stretch.extend 8 place candidate place), mark places)
      else
        let nextCandidate := places.long.getD nextLong 0
        if 0 < shortCandidate && agrees data 4 shortCandidate place then
          if 0 < nextCandidate && agrees data 8 nextCandidate next then
            (some (stretch.extend 8 next nextCandidate place), mark places)
          else (some (stretch.extend 4 place shortCandidate place), mark places)
        else
          let (stride, growth) := if growth ≤ next then (stride + 1, growth + 256) else (stride, growth)
          if stretch.hasRoom (next + stride) then
            seek stretch steps places next (next + stride) stride growth nextLong nextCandidate
          else (none, places)

end Stretch

/-- A number of literals and a copy after them. The offset is written as in a frame: up to
three it names one of the last offsets, above that it is too large by three. -/
structure Found where
  /-- The number of literals. -/
  literals : Nat
  /-- The offset as it is written. -/
  value : Nat
  /-- The length of the copy. -/
  length : Nat

/-- How far a division into sequences has come. -/
structure Dividing where
  /-- The places entered so far. -/
  places : Places
  /-- The place. -/
  place : Nat
  /-- Where the last copy ended. -/
  anchor : Nat
  /-- The last offset, or zero if it does not reach into the data. -/
  first : Nat
  /-- The offset before it, or zero. -/
  second : Nat
  /-- The sequences so far, last one first. -/
  found : List Found := []

namespace Dividing

/-- Take copies with the offset before the last one, as long as they follow each other, with
so many steps to go. -/
def repeats (data : Array UInt8) : (steps : Nat) → Dividing → Dividing
  | 0, dividing => dividing
  | steps + 1, ⟨places, place, anchor, first, second, found⟩ =>
    if place + 8 ≤ data.size && 0 < second && agrees data 4 place (place - second) then
      let length :=
        agreement data (data.size - (place + 4)) (place + 4) (place + 4 - second) + 4
      repeats data steps
        ⟨places.enter (longIndex data place) (shortIndex data place) place, place + length,
          place + length, second, first, ⟨0, 1, length⟩ :: found⟩
    else ⟨places, place, anchor, first, second, found⟩

/-- Take a copy, enter some of the places that it passes, and take what follows it. -/
def accept (data : Array UInt8) (copy : Match) : Dividing → Dividing
  | ⟨places, _, anchor, first, second, found⟩ =>
    let stop := copy.place + copy.length
    let (value, first, second) := match copy.offset with
      | none => (1, first, second)
      | some offset => (offset + 3, offset, first)
    let found := ⟨copy.place - anchor, value, copy.length⟩ :: found
    if stop + 8 ≤ data.size then
      let origin := copy.origin + 2
      let places := (places.enterLong (longIndex data origin) origin).enterLong
        (longIndex data (stop - 2)) (stop - 2)
      let places := (places.enterShort (shortIndex data origin) origin).enterShort
        (shortIndex data (stop - 1)) (stop - 1)
      repeats data data.size ⟨places, stop, stop, first, second, found⟩
    else ⟨places, stop, stop, first, second, found⟩

/-- Divide data up to its end, with so many steps to go. -/
def run (data : Array UInt8) : (steps : Nat) → Dividing → Dividing
  | 0, dividing => dividing
  | steps + 1, ⟨places, place, anchor, first, second, found⟩ =>
    if data.size < place + 9 then ⟨places, place, anchor, first, second, found⟩
    else
      let long := longIndex data place
      let candidate := places.long.getD long 0
      match Stretch.seek ⟨data, first, anchor⟩ data.size places place (place + 1) 1 (place + 256)
          long candidate with
      | (none, places) => ⟨places, place, anchor, first, second, found⟩
      | (some copy, places) =>
        run data steps (accept data copy ⟨places, place, anchor, first, second, found⟩)

end Dividing

/-- What is known of earlier data when a block begins. -/
structure Memory where
  /-- The places entered so far. -/
  places : Places := .none
  /-- The last offset. -/
  first : Nat := 1
  /-- The offset before it. -/
  second : Nat := 4

/-- A block divided into sequences, which are followed by literals. -/
structure Divided where
  /-- The sequences. -/
  found : List Found
  /-- The number of literals after them. -/
  trailing : Nat
  /-- The last offset, if the block is used. -/
  first : Nat
  /-- The offset before it. -/
  second : Nat

/-- Divide data from a place on. An offset that does not reach into the data is kept for
later, but not used. -/
def divide (data : Array UInt8) (start : Nat) (memory : Memory) : Divided × Places :=
  match memory with
  | ⟨places, first, second⟩ =>
    let place := if start = 0 then 1 else start
    let (savedFirst, usedFirst) := if place < first then (first, 0) else (0, first)
    let (savedSecond, usedSecond) := if place < second then (second, 0) else (0, second)
    let result := Dividing.run data data.size ⟨places, place, start, usedFirst, usedSecond, []⟩
    match result with
    | ⟨places, _, anchor, first, second, found⟩ =>
      let savedSecond := if savedFirst ≠ 0 && first ≠ 0 then savedFirst else savedSecond
      (⟨found.reverse, data.size - anchor, if first = 0 then savedFirst else first,
        if second = 0 then savedSecond else second⟩, places)

end ContentCoding.Zstd
