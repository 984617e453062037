import ContentCoding.Amount
import ContentCoding.Brotli.Compressed
import ContentCoding.Decode.Buffered
import ContentCoding.Encode.Engine
import ContentCoding.Encode.Layer
import ContentCoding.Encode.Verified

/-!
# Brotli layers

An engine for this coding encodes as it goes. A conveyor hands on what the engine puts
out, piece by piece, and makes interrupted calls of the writer below again. A piece that
the writer below refuses is lost, while the pieces after it stay with the engine.

The encoding layer stands around a conveyor and remembers the first fault of the writer
below, even one of an interrupted call that was made again. Finalizing flushes first.
What becomes of the bytes that end the stream is not looked at: only a remembered fault
tells.
-/

namespace ContentCoding.Brotli

/-- The report of a writer that takes nothing. -/
def noRoom : Fault := .described .writeZero "No room in output."

/-- The report of a write while earlier output is waiting. -/
def outOfTurn : Fault := .described .invalidData "Invalid Data"

/-- The report of a write after finalizing. -/
def alreadyFinalized : Fault := .described .other "br layer already finalized"

/-- An engine with what hands on its output. -/
structure Conveyor (S : Type) where
  /-- The engine. -/
  running : S
  /-- Whether a writer that took nothing has been reported. That is done once. -/
  refused : Bool := false

namespace Conveyor

variable {engine : Engine}

/-- Offer a piece until all of it is taken, for at most a given number of writes. -/
def offer : (attempts : Nat) → (piece : Bytes) → (refused : Bool) → Push (Except Fault Unit × Bool)
  | _, [], refused => .done (.ok (), refused)
  | 0, _, refused => .done (.error (.bare .interrupted), refused)
  | attempts + 1, piece, refused => .write piece fun
    | .ok 0 => if refused then .done (.ok (), true) else .done (.error noRoom, true)
    | .ok taken => offer attempts (piece.drop taken) refused
    | .error fault =>
      if fault.isInterruption then offer attempts piece refused
      else .done (.error fault, refused)

/-- Hand on what an engine puts out. -/
def convey {S : Type} (patience : Nat) :
    Emission S → (refused : Bool) → Push (Except Fault Unit × Conveyor S)
  | .done running, refused => .done (.ok (), ⟨running, refused⟩)
  | .stuck running, refused => .done (.error outOfTurn, ⟨running, refused⟩)
  | .put piece running later, refused =>
    (offer (piece.length + patience) piece refused).bind fun
      | (.ok (), refused) => convey patience later refused
      | (.error fault, refused) => .done (.error fault, ⟨running, refused⟩)

/-- Have the engine take plaintext. -/
def write (patience : Nat) : Conveyor engine.State → Bytes →
    Push (Except Fault Nat × Conveyor engine.State)
  | ⟨running, refused⟩, bytes =>
    (convey patience (engine.take running bytes) refused).map fun
      | (.ok (), conveyor) => (.ok bytes.length, conveyor)
      | (.error fault, conveyor) => (.error fault, conveyor)

/-- Have the engine put out all that was taken, and flush below. -/
def flush (patience : Nat) : Conveyor engine.State →
    Push (Except Fault Unit × Conveyor engine.State)
  | ⟨running, refused⟩ =>
    (convey patience (engine.flush running) refused).bind fun
      | (.ok (), conveyor) => (Push.flushRetrying patience).map fun answer => (answer, conveyor)
      | (.error fault, conveyor) => .done (.error fault, conveyor)

/-- Have the engine end the stream, whatever becomes of it. -/
def finish (patience : Nat) : Conveyor engine.State → Push (Conveyor engine.State)
  | ⟨running, refused⟩ => (convey patience (engine.finish running) refused).map Prod.snd

end Conveyor

/-- Remember the fault of an answer by its kind and text, unless there was one before. -/
def latch {α : Type} (first : Option Fault) (answer : Except Fault α) : Option Fault :=
  match first, answer with
  | none, .error fault => some (.described fault.kind fault.message)
  | first, _ => first

/-- An exchange that also remembers the first fault of the writer below. -/
def latched {α : Type} : Push α → (first : Option Fault) → Push (α × Option Fault)
  | .done result, first => .done (result, first)
  | .write bytes next, first => .write bytes fun answer => latched (next answer) (latch first answer)
  | .flush next, first => .flush fun answer => latched (next answer) (latch first answer)
  | .remark text next, first => .remark text (latched next first)

/-- The state of the encoding layer. -/
structure WriterState (S : Type) where
  /-- The engine and what hands on its output. -/
  conveyor : Conveyor S
  /-- The first fault of the writer below. -/
  first : Option Fault := none
  /-- Whether the stream has been ended. -/
  ended : Bool := false

namespace WriterState

variable {engine : Engine}

/-- Take plaintext. -/
def write (patience : Nat) : WriterState engine.State → Bytes →
    Push (Except Fault Nat × WriterState engine.State)
  | ⟨conveyor, first, true⟩, _ => .done (.error alreadyFinalized, ⟨conveyor, first, true⟩)
  | ⟨conveyor, first, false⟩, bytes =>
    (latched (conveyor.write patience bytes) first).map fun ((answer, conveyor), first) =>
      (answer, ⟨conveyor, first, false⟩)

/-- Put out all that was taken, and flush below. -/
def flush (patience : Nat) : WriterState engine.State →
    Push (Except Fault Unit × WriterState engine.State)
  | ⟨conveyor, first, true⟩ => Push.forwardFlush ⟨conveyor, first, true⟩
  | ⟨conveyor, first, false⟩ =>
    (latched (conveyor.flush patience) first).map fun ((answer, conveyor), first) =>
      (answer, ⟨conveyor, first, false⟩)

/-- End the stream, whatever becomes of it. -/
def finish (patience : Nat) : WriterState engine.State → Push (WriterState engine.State)
  | ⟨conveyor, first, _⟩ =>
    (latched (conveyor.finish patience) first).map fun (conveyor, first) => ⟨conveyor, first, true⟩

/-- The report of finalizing: that of the flush, or else the first fault of the writer below. -/
def report (flushed : Except Fault Unit) (first : Option Fault) : Except Fault Unit :=
  match flushed, first with
  | .error fault, _ => .error fault
  | .ok (), some fault => .error fault
  | .ok (), none => .ok ()

/-- Flush and end the stream. -/
def finalize (patience : Nat) (layer : WriterState engine.State) :
    Push (Except Fault Unit × WriterState engine.State) :=
  if layer.ended then .done (.ok (), layer)
  else
    (layer.flush patience).bind fun (flushed, layer) =>
      (layer.finish patience).map fun layer => (report flushed layer.first, layer)

end WriterState

/-- The encoding layer of an engine. -/
def encoderOver (engine : Engine) (patience : Nat) : Encoder where
  State := WriterState engine.State
  write := WriterState.write patience
  flush := WriterState.flush patience
  finalizes _ := true
  finalize := WriterState.finalize patience
  teardown layer := if layer.ended then .done () else (layer.finish patience).map fun _ => ()

/-- The coding as its decoder sees it. -/
def coding : Transducer := format.transducer

/-- Where a stream goes on after output that ends with a whole byte: with a meta-block. -/
def settle : coding.State → Option coding.State :=
  Format.settled fun
    | .metaBlock _ _ => true
    | .opening => false

/-- The coding as its encoder sees it, for the logarithm of a window size. -/
def packer (window : Nat) : Packer := .verified coding settle (compressing window) (storing window)

/-- The engine, which puts out pieces of a given size. -/
def engine (window size : Nat) : Engine := (packer window).engine size

/-- The encoding layer. -/
def encoder (patience window size : Nat) : Encoder := encoderOver (engine window size) patience

/-- The encoding layer before its first call. -/
def fresh (patience window size : Nat) : (encoder patience window size).State :=
  { conveyor := { running := (engine window size).start } }

/-- How far decoding runs ahead. -/
def lookahead : Nat := twoTo 24

/-- The rule for reading streams with a buffer of a given size. -/
def readRule (patience size : Nat) : ReadRule coding.State where
  bufferSize := size
  patience
  lookahead
  retries _ := true
  emptyRead := .decodes
  releases := true

/-- The decoding layer with a buffer of a given size. -/
def decoder (patience size : Nat) : Decoder := coding.decoder (readRule patience size)

end ContentCoding.Brotli
