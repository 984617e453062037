import ContentCoding.Stream.Pull
import ContentCoding.Zstd.Block

/-!
# Memory for zstd frames

Three buffers decide what odd frames are refused for. Those of the decoder serve
one frame after another: one for input, and one for output, which decoding in
pieces fills again and again from the front. The third is that of a caller who
collects all output: it grows as it fills, and the room in it decides whether a
frame is decoded at once.
-/

namespace ContentCoding.Zstd

/-- The sizes of the decoder's buffers. -/
structure Buffers where
  /-- The size of the buffer for input. -/
  input : Nat := 0
  /-- The size of the buffer for output. -/
  output : Nat := 0

/-- Buffers for a frame, which are those that are there if both are large enough. -/
def Buffers.fitted (buffers : Buffers) (window limit : Nat) (contentSize : Option Nat) : Buffers :=
  let input := max limit 4
  let full := max window 1024 + 2 * limit + 64
  let output := match contentSize with
    | some size => min size full
    | none => full
  if buffers.input < input || buffers.output < output then ⟨input, output⟩ else buffers

/-- The decoder's buffer for output in use. -/
structure Ring where
  /-- Its size. -/
  size : Nat
  /-- How much of it has been filled. -/
  used : Nat := 0
  /-- How much was filled before it was last begun again. -/
  before : Nat := 0

namespace Ring

/-- The space for the next piece. -/
def space (ring : Ring) : Space := ⟨ring.size - ring.used, ring.before + ring.used⟩

/-- Note that so much more is filled. -/
def fill (ring : Ring) (amount : Nat) : Ring :=
  { ring with used := ring.used + amount }

/-- Begin at the front again if another block may not fit and the buffer does not hold the
whole content anyway. -/
def turn (ring : Ring) (limit : Nat) (contentSize : Option Nat) : Ring :=
  if contentSize.all (ring.size < ·) && ring.size < ring.used + limit then
    ⟨ring.size, 0, ring.used⟩
  else ring

end Ring

/-- The memory that one frame leaves to the next. -/
structure Reserve where
  /-- The decoder's buffers. -/
  buffers : Buffers := {}
  /-- The buffer of the caller. -/
  collector : Collector := .empty

end ContentCoding.Zstd
