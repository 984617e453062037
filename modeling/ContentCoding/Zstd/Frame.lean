import ContentCoding.Checksum.XxHash64
import ContentCoding.Decode.Format
import ContentCoding.Zstd.Header
import ContentCoding.Zstd.Reserve

/-!
# Zstd streams

A zstd stream is a series of frames, at least one. A frame has a header, blocks
of which the last one is marked, and maybe a checksum of what it decodes to.
Frames of another kind are passed over. A block holds bytes as they are, one
byte to repeat, or literals and sequences.

There are two ways to decode a frame, which accept the same frames but for odd
ones. In pieces, as they come, the output goes through a buffer whose size
depends on the window. At once, the output goes to the caller, and the window
does not matter. A frame that says that the caller has room for its content is
decoded at once if all of it is there, and in pieces if it is cut short, so until
its end both ways are kept in view. Any other frame is decoded in pieces.
-/

namespace ContentCoding.Zstd

/-- The largest window that is allowed. -/
def maxWindow : Nat := twoTo 27 + 1

/-- How a frame is decoded. -/
inductive Way
  /-- In pieces. -/
  | inPieces
  /-- At once if all of it is there, and in pieces if not. Each way may have met damage. -/
  | either (atOnce inPieces : Option Damage)

namespace Way

/-- What a way says, or the damage that it has met before. -/
def meet {α : Type} (damage : Option Damage) (result : Unit → Except Damage α) : Except Damage α :=
  match damage with
  | some damage => .error damage
  | none => result ()

/-- The damage in a result. -/
def damage? {α : Type} : Except Damage α → Option Damage
  | .ok _ => none
  | .error damage => some damage

/-- Go on with what both ways say. If neither accepts, there is no result. -/
def judge {α : Type} (way : Way) (atOnce inPieces : Unit → Except Damage α) :
    Scan (Way × Option α) :=
  match way with
  | .inPieces =>
    match inPieces () with
    | .ok result => .done (.inPieces, some result)
    | .error damage => .fail damage.failure
  | .either first second =>
    let first := meet first atOnce
    let second := meet second inPieces
    .done (.either (damage? first) (damage? second), (first.toOption <|> second.toOption))

/-- Require something of each way. -/
def demand (way : Way) (atOnce inPieces : Except Damage Unit) : Scan Way := do
  let (way, _) ← way.judge (fun _ => atOnce) (fun _ => inPieces)
  return way

/-- What a frame fails with that is all there, if it does. -/
def verdict : Way → Option Damage
  | .inPieces => none
  | .either atOnce _ => atOnce

/-- What a frame fails with that is cut short. -/
def cutShort : Way → Failure
  | .either _ (some damage) => damage.failure
  | _ => incomplete

/-- What a frame fails with whose blocks cannot be told apart. -/
def disorder : Way → Failure
  | .either _ (some damage) => damage.failure
  | _ => Damage.data.failure

end Way

/-- A frame part way through. -/
structure FrameState where
  /-- The most bytes a block may decode to. -/
  limit : Nat
  /-- The number of bytes that the frame decodes to, if it says so. -/
  contentSize : Option Nat
  /-- Whether a checksum follows the last block. -/
  hasChecksum : Bool
  /-- How it is decoded. -/
  way : Way
  /-- How much room the caller has for the content. -/
  room : Nat
  /-- The memory for the next frame, which does not count this one's content yet. -/
  reserve : Reserve
  /-- The buffer for output, when decoding in pieces. -/
  ring : Ring
  /-- What the next block may use again. -/
  codes : Codes := {}

/-- The kinds of blocks. -/
inductive BlockKind
  /-- Bytes as they are. -/
  | raw
  /-- One byte, repeated. -/
  | repeated
  /-- Literals and sequences. -/
  | coded
  deriving DecidableEq, Repr

/-- What the header of a block says. -/
structure BlockHeader where
  /-- The kind of the block. -/
  kind : BlockKind
  /-- How many bytes follow, or how often the one that follows is repeated. -/
  size : Nat
  /-- Whether the block is the last one. -/
  last : Bool
  deriving Repr

/-- The number of bytes that follow. -/
def BlockHeader.length (header : BlockHeader) : Nat :=
  match header.kind with
  | .raw | .coded => header.size
  | .repeated => 1

/-- Which part of a zstd stream comes next. -/
inductive Mode
  /-- A frame, which is the first or a later one. -/
  | frame (first : Bool) (reserve : Reserve)
  /-- A block. -/
  | block (state : FrameState)
  /-- What is left of a block, which is not nothing. -/
  | content (state : FrameState) (header : BlockHeader)
  /-- A checksum. -/
  | checksum (state : FrameState)

/-- The start of a frame, if its header is acceptable. -/
def startFrame (reserve : Reserve) (header : Header) : Scan (Option Mode) := do
  Scan.require (!header.reserved) Damage.header.failure
  Scan.require (!header.excessive) Damage.window.failure
  Scan.require (header.dictionary = 0) Damage.dictionary.failure
  Scan.restart
  let room := reserve.collector.room
  let small := header.contentSize.any (· ≤ room)
  let way : Way := if small then .either none none else .inPieces
  let way ← way.demand (.ok ()) (if maxWindow < header.window then .error .window else .ok ())
  let limit := min header.window maxBlock
  let fitted := reserve.buffers.fitted header.window limit header.contentSize
  return some (.block
    { limit, way, room
      contentSize := header.contentSize
      hasChecksum := header.hasChecksum
      reserve := if small then reserve else { reserve with buffers := fitted }
      ring := { size := fitted.output } })

/-- A frame, or one to be passed over, after the first byte. -/
def frame (reserve : Reserve) (first : UInt8) : Scan (Option Mode) := do
  let taken ← magicAfter 3 [first]
  if taken = magic then
    let descriptor ← Scan.bytes 1
    startFrame reserve (← Header.ofDescriptor (Bytes.valueLE descriptor))
  else
    Scan.skip (Bytes.valueLE (← Scan.bytes 4))
    return some (.frame false reserve)

/-- The end of a frame. -/
def endFrame (state : FrameState) : Scan (Option Mode) := do
  match state.way.verdict with
  | none =>
    let collector := state.reserve.collector.add (← Scan.produced)
    return some (.frame false { state.reserve with collector })
  | some damage => .fail damage.failure

/-- The rest of a checksum after its first byte. It must be that of the output, if there
is any. -/
def checksum (state : FrameState) (first : UInt8) : Scan (Option Mode) := do
  let given := first :: (← Scan.bytes 3)
  if state.way.verdict.isNone then
    .inspect fun history _ =>
      Scan.require (given == Bytes.littleEndian 4 (XxHash64.ofBytes history.toList).toNat)
        Damage.checksum.failure
  endFrame state

/-- The end of a block. After the last one, the size of the content is checked, except that
decoding in pieces stops right after the header of an empty block. -/
def endBlock (state : FrameState) (last isEmpty : Bool) : Scan (Option Mode) := do
  if last then
    let produced ← Scan.produced
    let sized : Except Damage Unit :=
      if state.contentSize.all (· = produced) then .ok () else .error .data
    let way ← state.way.demand sized (if isEmpty then .ok () else sized)
    let state := { state with way }
    if state.hasChecksum then return some (.checksum state) else endFrame state
  else return some (.block state)

/-- The space that decoding at once has left. -/
def FrameState.spaceAtOnce (state : FrameState) (produced : Nat) : Space :=
  ⟨state.room - produced, produced⟩

/-- The header of a block. It tells damage apart from lengths. -/
def beginBlock (state : FrameState) (header : BlockHeader) : Scan (Option Mode) := do
  let produced ← Scan.produced
  let atOnce : Except Damage Unit :=
    match header.kind with
    | .raw => if (state.spaceAtOnce produced).room < header.size then .error .room else .ok ()
    | .repeated => .ok ()
    | .coded =>
      if state.limit < header.size then .error .size
      else if header.size = 0 then .error .data
      else .ok ()
  let way ← state.way.demand atOnce
    (if state.limit < header.length then .error .data else .ok ())
  let state := { state with way }
  if header.length = 0 then endBlock state header.last true
  else return some (.content state header)

/-- The rest of the header of a block after its first byte. -/
def block (state : FrameState) (first : UInt8) : Scan (Option Mode) := do
  let value := Bytes.valueLE (first :: (← Scan.bytes 2))
  let size := value / 8
  let last := value % 2 = 1
  match value / 2 % 4 with
  | 0 => beginBlock state ⟨.raw, size, last⟩
  | 1 => beginBlock state ⟨.repeated, size, last⟩
  | 2 => beginBlock state ⟨.coded, size, last⟩
  | _ => .fail state.way.disorder

/-- A piece that is no longer than a block may be. -/
def Piece.limited (limit : Nat) (piece : Piece) : Except Damage Piece :=
  if limit < piece.size then .error .data else .ok piece

/-- Carry out the next piece of a block. -/
def output (state : FrameState) (read : Space → Except Damage Piece) : Scan FrameState := do
  let produced ← Scan.produced
  let (way, piece) ← state.way.judge (fun _ => read (state.spaceAtOnce produced))
    (fun _ => do (← read state.ring.space).limited state.limit)
  match piece with
  | none => return { state with way }
  | some piece =>
    piece.perform
    return { state with way, ring := state.ring.fill piece.size, codes := piece.codes }

/-- The rest of a block, or the next byte of a raw one. -/
def content (state : FrameState) (header : BlockHeader) (first : UInt8) :
    Scan (Option Mode) := do
  let finish (state : FrameState) : Scan (Option Mode) :=
    endBlock { state with ring := state.ring.turn state.limit state.contentSize }
      header.last false
  match header.kind with
  | .raw =>
    let state ← output state (Piece.ofBytes state.codes [first])
    if header.size ≤ 1 then finish state
    else return some (.content state { header with size := header.size - 1 })
  | .repeated => finish (← output state (Piece.ofRepeated state.codes first header.size))
  | .coded =>
    let bytes := first :: (← Scan.bytes (header.size - 1))
    finish (← output state (Piece.ofCoded state.limit state.codes bytes))

/-- A unit of a zstd stream. -/
def unit : Mode → Scan.Need (Option Mode)
  | .frame _ reserve => .byte (frame reserve)
  | .block state => .byte (block state)
  | .content state header => .byte (content state header)
  | .checksum state => .byte (checksum state)

/-- What it means that the stream ends in a unit, or right before it. -/
def ending : Mode → (begun : Bool) → Except Failure Unit
  | .frame false _, false => .ok ()
  | .frame _ _, _ => .error incomplete
  | .block state, _ | .content state _, _ | .checksum state, _ => .error state.way.cutShort

/-- Zstd streams. -/
def format : Format where
  Mode := Mode
  start := .frame true {}
  unit
  ending

end ContentCoding.Zstd
