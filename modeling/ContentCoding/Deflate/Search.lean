import ContentCoding.Bytes

/-!
# Looking for copies

Places where the same three bytes might begin are linked in a chain, the latest first.
A search goes along the chain for a limited number of rounds. A round ends after three
places, or with a place whose bytes agree where the best copy so far ends. Whatever the
search finds is a copy, so how hard it looks matters to nothing but size.
-/

namespace ContentCoding.Deflate

/-- How hard to look for copies. -/
structure Effort where
  /-- How many rounds to go. -/
  rounds : Nat
  /-- How many rounds to go when a long copy is at hand. -/
  fewerRounds : Nat
  /-- Whether a copy is put off in favour of a longer one at the next byte. -/
  putsOff : Bool
  deriving Repr

/-- The effort for a number of probes. -/
def Effort.ofProbes (probes : Nat) (putsOff : Bool) : Effort :=
  ⟨1 + (probes + 2) / 3, 1 + (probes / 4 + 2) / 3, putsOff⟩

/-- The numbers of probes by level. -/
def probesByLevel : Array Nat := #[0, 1, 6, 32, 16, 32, 128, 256, 512, 768, 1500]

/-- The effort for a compression level. -/
def Effort.ofLevel (level : Nat) : Effort :=
  .ofProbes (probesByLevel.getD (min level 10) 0) (3 < level)

/-- The longest copy. -/
def longestCopy : Nat := 258

/-- The number of chains. -/
def chains : Nat := 32768

/-- The chain for three bytes. -/
def chainOf (first second third : UInt8) : Nat :=
  ((first.toNat <<< 10) ^^^ (second.toNat <<< 5) ^^^ third.toNat) % chains

/-- For each place the next one of its chain. Zero stands for none, and so nothing is copied
from the first byte. The heads of the chains are passed along. -/
def linkFrom (data : Array UInt8) :
    (steps : Nat) → (place : Nat) → (heads links : Array Nat) → Array Nat
  | 0, _, _, links => links
  | steps + 1, place, heads, links =>
    let chain := chainOf (data.getD place 0) (data.getD (place + 1) 0) (data.getD (place + 2) 0)
    let links := links.push (heads.getD chain 0)
    linkFrom data steps (place + 1) (heads.setIfInBounds chain place) links

/-- The chains through data. -/
def links (data : Array UInt8) : Array Nat :=
  linkFrom data (data.size - 2) 0 (Array.replicate chains 0) #[]

/-- A copy of earlier data. -/
structure Copy where
  /-- How far back it begins. -/
  distance : Nat
  /-- How long it is. -/
  length : Nat
  deriving Repr

/-- How many bytes agree from two places on, up to a limit. -/
def agreement (data : Array UInt8) : (limit : Nat) → (place other : Nat) → Nat
  | 0, _, _ => 0
  | limit + 1, place, other =>
    if data.getD place 0 = data.getD other 0 then
      agreement data limit (place + 1) (other + 1) + 1
    else 0

/-- Whether two bytes agree at two places. -/
def pairAgrees (data : Array UInt8) (place other : Nat) : Bool :=
  data.getD place 0 = data.getD other 0 && data.getD (place + 1) 0 = data.getD (other + 1) 0

/-- What is searched, and for what. -/
structure Quest where
  /-- The data. -/
  data : Array UInt8
  /-- The chains. -/
  links : Array Nat
  /-- Where the copy is to stand. -/
  place : Nat
  /-- How far back it may begin. -/
  farthest : Nat
  /-- How long it may be. -/
  longest : Nat

/-- Go on along a chain, with so many rounds to go and so many places left in the present
one. -/
def Quest.goOn (quest : Quest) (rounds tries probe : Nat) (best : Copy) : Copy :=
  let (rounds, tries) := if tries = 0 then (rounds - 1, 3) else (rounds, tries)
  let next := quest.links.getD probe 0
  if rounds = 0 || next % 65536 = 0 || quest.farthest < quest.place - next then best
  else if _h : next < probe then
    if pairAgrees quest.data (quest.place + best.length - 1) (next + best.length - 1) then
      let length := agreement quest.data quest.longest quest.place next
      if 2 ≤ length && best.length < length then
        if length = quest.longest then ⟨quest.place - next, length⟩
        else quest.goOn rounds 0 next ⟨quest.place - next, length⟩
      else quest.goOn rounds 0 next best
    else quest.goOn rounds (tries - 1) next best
  else best
termination_by probe
decreasing_by all_goals exact _h

/-- Look for a copy that is longer than one at hand. -/
def Quest.run (quest : Quest) (effort : Effort) (best : Copy) : Copy :=
  if quest.longest ≤ best.length then best
  else
    quest.goOn (if best.length < 32 then effort.rounds else effort.fewerRounds) 0 quest.place best

end ContentCoding.Deflate
