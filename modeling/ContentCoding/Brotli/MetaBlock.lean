import ContentCoding.Amount
import ContentCoding.Brotli.Command
import ContentCoding.Brotli.Dictionary
import ContentCoding.Brotli.Transform

/-!
# Compressed meta-blocks

A compressed meta-block gives its codes, and then commands until it has put out as many
bytes as it says. A distance beyond all output, or beyond the window, stands for a
transformed word of the static dictionary.

A word may be transformed to nothing, so a meta-block with little output can hold any
number of commands. `commandLimit` bounds them; no stream reaches it.
-/

namespace ContentCoding.Brotli

open Huffman

/-- The window of a stream. -/
structure Window where
  /-- The logarithm of its size. -/
  bits : Nat
  /-- Whether it is one of those that may be very large. -/
  wide : Bool := false

/-- How far back copies may go. -/
def Window.reach (window : Window) : Nat := twoTo window.bits - 16

/-- What a meta-block gives before its commands. -/
structure Plan where
  /-- The way to classify bytes in each block type. -/
  modes : Array ContextMode
  /-- The selection of codes for literals. -/
  literalMap : ContextMap
  /-- The codes for literals. -/
  literals : Array Tree
  /-- The codes for commands by block type. -/
  commands : Array Tree
  /-- How distances are written. -/
  rule : DistanceRule
  /-- The selection of codes for distances. -/
  distanceMap : ContextMap
  /-- The codes for distances. -/
  distances : Array Tree

/-- What changes from command to command. -/
structure Walk where
  /-- The blocks of literals. -/
  literals : BlockSplit
  /-- The blocks of commands. -/
  commands : BlockSplit
  /-- The blocks of distances. -/
  distances : BlockSplit
  /-- The distances of the last copies. -/
  recent : Recent

/-- Ways to classify bytes, one for each block type. -/
def contextModes : (count : Nat) → Scan (List ContextMode)
  | 0 => .done []
  | count + 1 => do
    let mode ← Scan.bits 2
    let rest ← contextModes count
    return .ofBits mode :: rest

/-- Read what comes before the commands. -/
def Plan.read (wide : Bool) (recent : Recent) : Scan (Plan × Walk) := do
  let literals ← BlockSplit.read
  let commands ← BlockSplit.read
  let distances ← BlockSplit.read
  let rule ← DistanceRule.read wide
  let modes ← contextModes literals.types
  let literalMap ← ContextMap.read (64 * literals.types)
  let distanceMap ← ContextMap.read (4 * distances.types)
  let literalCodes ← givenCodes { size := 256 } literalMap.codes
  let commandCodes ← givenCodes { size := commandSymbols } commands.types
  let distanceCodes ← givenCodes rule.alphabet distanceMap.codes
  return (⟨modes.toArray, literalMap, literalCodes.toArray, commandCodes.toArray, rule,
    distanceMap, distanceCodes.toArray⟩, ⟨literals, commands, distances, recent⟩)

/-- The last two bytes of the output, the latest one second. -/
def lastBytes : Scan (UInt8 × UInt8) :=
  .inspect fun history _ =>
    let size := history.size
    let last := if 1 ≤ size then history.getD (size - 1) 0 else 0
    let previous := if 2 ≤ size then history.getD (size - 2) 0 else 0
    .done (previous, last)

/-- Literals after two bytes. -/
def literals (plan : Plan) : (count : Nat) → BlockSplit → (previous last : UInt8) → Scan BlockSplit
  | 0, split, _, _ => .done split
  | count + 1, split, previous, last =>
    split.next.bind fun split =>
      let mode := plan.modes.getD split.current .lowBits
      let code :=
        plan.literalMap.select plan.literals (64 * split.current + mode.classify previous last)
      (code.symbol invalid).bind fun symbol =>
        let literal := UInt8.ofNat symbol
        .emit [literal] fun _ => literals plan count split last literal

/-- A word of the dictionary by its length and its number among all transformed words of
that length. -/
def transformedWord (length number : Nat) : Scan Bytes :=
  match shelf? length with
  | none => .fail invalid
  | some shelf =>
    match wordTransforms[number / twoTo shelf.countBits]? with
    | none => .fail invalid
    | some transform => .done (transform.apply (shelf.word (number % twoTo shelf.countBits)))

/-- A copy within the window or a word of the dictionary. The result is the number of bytes
put out, and the last distances. -/
def copyOrWord (window remaining length : Nat) (reach : Reach) (recent : Recent) :
    Scan (Nat × Recent) := do
  let farthest := min window (← Scan.produced)
  let (distance, after) := match reach with
    | .same => (recent.first, recent)
    | .back distance => (distance, recent.push distance)
  if distance ≤ farthest then
    Scan.require (length ≤ remaining) invalid
    Scan.again distance length
    return (length, after)
  else
    let word ← transformedWord length (distance - farthest - 1)
    Scan.require (word.length ≤ remaining) invalid
    Scan.put word
    return (word.length, recent)

/-- The copy of a command. The result is the number of bytes put out. -/
def copyPart (plan : Plan) (window remaining : Nat) (command : Command) (walk : Walk) :
    Scan (Nat × Walk) := do
  if command.reuses then
    let (count, recent) ← copyOrWord window remaining command.copied .same walk.recent
    return (count, { walk with recent })
  else
    let distances ← walk.distances.next
    let code := plan.distanceMap.select plan.distances
      (4 * distances.current + distanceContext command.copied)
    let reach ← plan.rule.reach walk.recent code
    let (count, recent) ← copyOrWord window remaining command.copied reach walk.recent
    return (count, { walk with distances, recent })

/-- Commands until so many bytes are put out, with so many steps to go. The result is the
last distances. -/
def commands (plan : Plan) (window : Nat) : (steps : Nat) → (remaining : Nat) → Walk → Scan Recent
  | 0, _, _ => .fail invalid
  | steps + 1, remaining, walk =>
    if remaining = 0 then .done walk.recent
    else
      walk.commands.next.bind fun split =>
        (Command.read (plan.commands.getD split.current .missing)).bind fun command =>
          if remaining < command.inserted then .fail invalid
          else
            lastBytes.bind fun (previous, last) =>
              (literals plan command.inserted walk.literals previous last).bind fun literals =>
                let walk := { walk with literals, commands := split }
                let remaining := remaining - command.inserted
                if remaining = 0 then .done walk.recent
                else
                  (copyPart plan window remaining command walk).bind fun (count, walk) =>
                    commands plan window steps (remaining - count) walk

/-- More commands than there can be in a stream. -/
def commandLimit : Nat := twoTo 62

/-- A compressed meta-block that puts out so many bytes. -/
def compressed (window : Window) (size : Nat) (recent : Recent) : Scan Recent :=
  (Plan.read window.wide recent).bind fun (plan, walk) =>
    commands plan window.reach commandLimit size walk

end ContentCoding.Brotli
