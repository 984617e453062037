import ContentCoding.Amount
import ContentCoding.Brotli.Command
import ContentCoding.Brotli.Lexicon
import ContentCoding.Brotli.Transform

/-!
# Looking for copies and words

At each place the search tries the last four distances, then the latest places that begin
with the same four bytes, and, if none of them is any good, two words of the dictionary.
A find is scored by the literals that it saves and the bits that its distance takes. It is
put off for a byte, up to four times in a row, if there is a much better one.

Where nothing has been found for long, the search skips places.
-/

namespace ContentCoding.Brotli

/-- A copy or a word that has been found. -/
structure Find where
  /-- How many bytes it stands for. -/
  length : Nat
  /-- How many bytes it says that it copies. For a word that is cut short this is more. -/
  stated : Nat
  /-- How far back it goes, or beyond. -/
  distance : Nat
  /-- How good it is. -/
  score : Nat
  deriving Inhabited

/-- What the search remembers of earlier data. -/
structure Finder where
  /-- The places for each scattered value of four bytes, the latest first. -/
  buckets : Array (List Nat)
  /-- How many words have been looked up. -/
  lookups : Nat := 0
  /-- How many of them were of use. -/
  uses : Nat := 0

namespace Finder

/-- The logarithm of the number of buckets. -/
def bucketBits : Nat := 14

/-- How many places of a bucket are looked at. -/
def bucketDepth : Nat := 32

/-- A search that has seen nothing. -/
def fresh : Finder := ⟨Array.replicate (twoTo bucketBits) [], 0, 0⟩

/-- The bucket of a place. -/
def bucketAt (data : Array UInt8) (place : Nat) : Nat :=
  scatter bucketBits (data.getD place 0) (data.getD (place + 1) 0) (data.getD (place + 2) 0)
    (data.getD (place + 3) 0)

/-- Enter a place. -/
def enter (data : Array UInt8) (place : Nat) : Finder → Finder
  | ⟨buckets, lookups, uses⟩ =>
    ⟨buckets.modify (bucketAt data place) (place :: ·), lookups, uses⟩

/-- Enter so many places, each a step after the one before. -/
def enterRange (data : Array UInt8) (step : Nat) : (count : Nat) → (place : Nat) → Finder → Finder
  | 0, _, finder => finder
  | count + 1, place, finder => enterRange data step count (place + step) (finder.enter data place)

end Finder

/-- How many bytes agree from two places on, up to a limit. -/
def agreement (data : Array UInt8) : (limit : Nat) → (place other : Nat) → Nat
  | 0, _, _ => 0
  | limit + 1, place, other =>
    if data.getD place 0 = data.getD other 0 then
      agreement data limit (place + 1) (other + 1) + 1
    else 0

/-- How many bytes of a word stand at a place. -/
def agreementWithWord (data : Array UInt8) : (place : Nat) → Bytes → Nat
  | _, [] => 0
  | place, byte :: rest =>
    if data.getD place 0 = byte then agreementWithWord data (place + 1) rest + 1 else 0

/-- The score of nothing. -/
def baseScore : Nat := 1920

/-- The least score that is of use. -/
def leastScore : Nat := baseScore + 100

/-- The score of a copy or a word. -/
def scoreOf (length distance : Nat) : Nat := baseScore + 135 * length - 30 * distance.log2

/-- The score of a copy with the last distance. -/
def scoreOfLast (length : Nat) : Nat := baseScore + 15 + 135 * length

/-- What the score of a copy is less with each of the last distances. -/
def recentPenalty : Nat → Nat
  | 0 => 0
  | 1 => 39
  | _ => 43

/-- What is searched, and for what. -/
structure Quest where
  /-- The data. -/
  data : Array UInt8
  /-- Where the copy is to stand. -/
  place : Nat
  /-- How long it may be. -/
  longest : Nat
  /-- How far back it may go. -/
  farthest : Nat

namespace Quest

/-- Try one of the last distances. -/
def tryRecent (quest : Quest) (best : Find) (entry : Nat × Nat) : Find :=
  let (distance, age) := entry
  if distance = 0 || quest.farthest < distance then best
  else
    let length := agreement quest.data quest.longest quest.place (quest.place - distance)
    if 3 ≤ length || (length = 2 && age < 2) then
      let score := scoreOfLast length
      if best.score < score && best.score < score - recentPenalty age then
        ⟨length, length, distance, score - recentPenalty age⟩
      else best
    else best

/-- Try places of a bucket, as long as they are near enough. -/
def tryPlaces (quest : Quest) : (count : Nat) → List Nat → Find → Find
  | 0, _, best => best
  | _, [], best => best
  | count + 1, other :: rest, best =>
    let distance := quest.place - other
    if quest.farthest < distance then best
    else if quest.data.getD (quest.place + best.length) 0 = quest.data.getD (other + best.length) 0 then
      let length := agreement quest.data quest.longest quest.place other
      let score := scoreOf length distance
      if 4 ≤ length && best.score < score then
        quest.tryPlaces count rest ⟨length, length, distance, score⟩
      else quest.tryPlaces count rest best
    else quest.tryPlaces count rest best

/-- The number of the transform that leaves out so many bytes at the end of a word. -/
def cutting (count : Nat) : Option Nat :=
  wordTransforms.findIdx? fun transform =>
    transform.before.isEmpty && transform.after.isEmpty &&
      match transform.change with
      | .keep => count = 0
      | .dropLast dropped => dropped = count
      | _ => false

/-- The numbers of these transforms. -/
def cuttings : Array (Option Nat) := ((List.range 10).map cutting).toArray

/-- The greatest distance that can be written. -/
def greatestDistance : Nat := twoTo 26 - 4

/-- Try a word. -/
def tryWord (quest : Quest) (place : WordPlace) (best : Find) : Option Find :=
  if quest.longest < place.length then none
  else
    let length := agreementWithWord quest.data quest.place place.bytes
    match cuttings.getD (place.length - length) none, shelf? place.length with
    | some transform, some shelf =>
      let distance := quest.farthest + 1 + place.index + transform * twoTo shelf.countBits
      let score := scoreOf length distance
      if length = 0 || greatestDistance < distance || score < best.score then none
      else some ⟨length, place.length, distance, score⟩
    | _, _ => none

/-- Try the words in places of the tables. -/
def tryWords (quest : Quest) : List Nat → Finder → Find → Find × Finder
  | [], finder, best => (best, finder)
  | place :: rest, ⟨buckets, lookups, uses⟩, best =>
    match (lexicon.getD place none).bind fun word => quest.tryWord word best with
    | some better => quest.tryWords rest ⟨buckets, lookups + 1, uses + 1⟩ better
    | none => quest.tryWords rest ⟨buckets, lookups + 1, uses⟩ best

/-- Look for a copy or a word, and enter the place. Words are no longer looked up when they
were too rarely of use. -/
def run (quest : Quest) (recent : Recent) (finder : Finder) : Find × Finder :=
  let nothing : Find := ⟨0, 0, 0, leastScore⟩
  let best := [(recent.first, 0), (recent.second, 1), (recent.third, 2), (recent.fourth, 3)].foldl
    quest.tryRecent nothing
  let bucket := Finder.bucketAt quest.data quest.place
  let best := quest.tryPlaces Finder.bucketDepth (finder.buckets.getD bucket []) best
  let finder := finder.enter quest.data quest.place
  if best.score = leastScore && finder.lookups / 128 ≤ finder.uses then
    let byte (offset : Nat) : UInt8 := quest.data.getD (quest.place + offset) 0
    let place := lexiconPlace (byte 0) (byte 1) (byte 2) (byte 3)
    quest.tryWords [place, place + 1] finder best
  else (best, finder)

end Quest

/-- Literals, and a copy or a word after them. -/
structure Phrase where
  /-- The number of literals. -/
  inserted : Nat
  /-- How many bytes the copy or the word stands for. -/
  copied : Nat
  /-- How many bytes it says that it copies. -/
  stated : Nat
  /-- The distance as it is written: less than 16 for one near the last ones, otherwise
  larger by 15. -/
  distance : Nat
  deriving Inhabited, Repr

/-- Literals at the end of a meta-block. -/
def Phrase.ending (inserted : Nat) : Phrase := ⟨inserted, 0, 4, 16⟩

/-- How a distance is written. -/
def Recent.write (recent : Recent) (distance farthest : Nat) : Nat :=
  let far := distance + 15
  if farthest < distance then far
  else if distance = recent.first then 0
  else if distance = recent.second then 1
  else
    match (List.range' 4 6).find? fun code => nearby recent.first (code - 4) = distance with
    | some code => code
    | none =>
      match (List.range' 10 6).find? fun code => nearby recent.second (code - 10) = distance with
      | some code => code
      | none =>
        if distance = recent.third then 2
        else if distance = recent.fourth then 3
        else far

/-- How far a division into phrases has come. -/
structure Dividing where
  /-- What the search remembers. -/
  finder : Finder
  /-- The place. -/
  place : Nat
  /-- The number of literals since the last phrase. -/
  inserted : Nat
  /-- The distances of the last copies. -/
  recent : Recent
  /-- From which place on places are skipped. -/
  patience : Nat
  /-- The phrases so far, last one first. -/
  phrases : List Phrase := []

/-- The length of fruitless search after which places are skipped. -/
def fruitless : Nat := 64

/-- Data up to a place, with the farthest distance of a copy in the window. -/
structure Extent where
  /-- The data. -/
  data : Array UInt8
  /-- Where it ends. -/
  stop : Nat
  /-- The farthest distance. -/
  window : Nat

namespace Dividing

/-- Look for something at a place. -/
def look (extent : Extent) (place : Nat) (recent : Recent) (finder : Finder) : Find × Finder :=
  Quest.run ⟨extent.data, place, extent.stop - place, min place extent.window⟩ recent finder

/-- Put a find off for a much better one at the next place, for at most so many times. The
result also holds the number of literals before it. -/
def putOff (extent : Extent) : (times : Nat) → (place inserted : Nat) → Recent → Find → Finder →
    Find × Nat × Nat × Finder
  | 0, place, inserted, _, find, finder => (find, place, inserted, finder)
  | times + 1, place, inserted, recent, find, finder =>
    let (better, finder) := look extent (place + 1) recent finder
    if find.score + 175 ≤ better.score then
      if place + 5 < extent.stop then
        putOff extent times (place + 1) (inserted + 1) recent better finder
      else (better, place + 1, inserted + 1, finder)
    else (find, place, inserted, finder)

/-- Skip places, entering one in each step. -/
def skip (extent : Extent) (step limit : Nat) (dividing : Dividing) : Dividing :=
  match dividing with
  | ⟨finder, place, inserted, recent, patience, phrases⟩ =>
    let target := min (place + limit) (extent.stop - max step 3)
    let count := (target - place + step - 1) / step
    ⟨finder.enterRange extent.data step count place, place + step * count,
      inserted + step * count, recent, patience, phrases⟩

/-- Take a find at a place after so many literals, and enter the places that it passes. -/
def accept (extent : Extent) (storeEnd : Nat) (find : Find) (dividing : Dividing) : Dividing :=
  match dividing with
  | ⟨finder, place, inserted, recent, _, phrases⟩ =>
    let farthest := min place extent.window
    let distance := recent.write find.distance farthest
    let recent :=
      if find.distance ≤ farthest && 0 < distance then recent.push find.distance else recent
    let stop := min (place + find.length) storeEnd
    let start :=
      if find.distance < find.length / 4 then
        min stop (max (place + 2) (place + find.length - 4 * find.distance))
      else place + 2
    ⟨finder.enterRange extent.data 1 (stop - start) start, place + find.length, 0, recent,
      place + 2 * find.length + fruitless, ⟨inserted, find.length, find.stated, distance⟩ :: phrases⟩

/-- Go on to the end of the data, with so many steps to go. -/
def run (extent : Extent) (storeEnd : Nat) : (steps : Nat) → Dividing → Dividing
  | 0, dividing => dividing
  | steps + 1, ⟨finder, place, inserted, recent, patience, phrases⟩ =>
    if extent.stop ≤ place + 4 then ⟨finder, place, inserted, recent, patience, phrases⟩
    else
      let (find, finder) := look extent place recent finder
      if leastScore < find.score then
        let (find, place, inserted, finder) := putOff extent 4 place inserted recent find finder
        run extent storeEnd steps
          (accept extent storeEnd find ⟨finder, place, inserted, recent, patience, phrases⟩)
      else
        let dividing : Dividing := ⟨finder, place + 1, inserted + 1, recent, patience, phrases⟩
        let place := place + 1
        run extent storeEnd steps
          (if place ≤ patience then dividing
          else if patience + 4 * fruitless < place then skip extent 4 16 dividing
          else skip extent 2 8 dividing)

end Dividing

/-- The state of a division between blocks of input. -/
structure Searching where
  /-- What the search remembers. -/
  finder : Finder := .fresh
  /-- The number of literals since the last phrase. -/
  inserted : Nat := 0
  /-- The distances of the last copies. -/
  recent : Recent := {}
  /-- The phrases so far, last one first. -/
  phrases : List Phrase := []

/-- Make the last copy longer, as far as the data goes on in the same way. The result also
holds the new place. -/
def extendLast (extent : Extent) (place : Nat) (searching : Searching) : Nat × Searching :=
  match searching with
  | ⟨finder, 0, recent, last :: phrases⟩ =>
    let reach := min (place - last.copied) extent.window
    if (last.distance < 16 || last.distance - 15 = recent.first) && recent.first ≤ reach then
      let more := agreement extent.data (extent.stop - place) place (place - recent.first)
      (place + more, ⟨finder, 0, recent,
        { last with copied := last.copied + more, stated := last.stated + more } :: phrases⟩)
    else (place, searching)
  | _ => (place, searching)

/-- Divide a block of input from a place on. The three places before it have not been entered
yet. -/
def divideBlock (extent : Extent) (place : Nat) (searching : Searching) : Searching :=
  let count := extent.stop - place
  let searching :=
    if 3 ≤ count && 3 ≤ place then
      { searching with finder := searching.finder.enterRange extent.data 1 3 (place - 3) }
    else searching
  let (place, ⟨finder, inserted, recent, phrases⟩) := extendLast extent place searching
  let storeEnd := if 4 ≤ extent.stop - place then extent.stop - 3 else place
  match Dividing.run extent storeEnd (extent.stop - place)
      ⟨finder, place, inserted, recent, place + fruitless, phrases⟩ with
  | ⟨finder, place, inserted, recent, _, phrases⟩ =>
    ⟨finder, inserted + (extent.stop - place), recent, phrases⟩

end ContentCoding.Brotli
