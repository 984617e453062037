/-!
# Faults and pipeline errors

A `Fault` is what a read, write or flush reports when it fails: a kind, and
either the kind's own wording, a message, or a whole pipeline error that is
passing through. A `PipelineError` is what building or closing a pipeline
reports. Each may hold the other, so the two are defined together.

`PipelineError.toFault` and `Fault.toPipelineError` are the two crossings. The
first wraps, the second unwraps what was wrapped and wraps everything else.
-/

namespace ContentCoding

/-- The class of a failed stream operation. -/
inductive FaultKind
  | notFound
  | permissionDenied
  | alreadyExists
  | brokenPipe
  | wouldBlock
  | invalidInput
  | invalidData
  | timedOut
  | writeZero
  | interrupted
  | unsupported
  | unexpectedEof
  | outOfMemory
  | other
  deriving DecidableEq, Repr, Inhabited

namespace FaultKind

/-- The wording of a fault that carries no message of its own. -/
def text : FaultKind → String
  | notFound => "entity not found"
  | permissionDenied => "permission denied"
  | alreadyExists => "entity already exists"
  | brokenPipe => "broken pipe"
  | wouldBlock => "operation would block"
  | invalidInput => "invalid input parameter"
  | invalidData => "invalid data"
  | timedOut => "timed out"
  | writeZero => "write zero"
  | interrupted => "operation interrupted"
  | unsupported => "unsupported"
  | unexpectedEof => "unexpected end of file"
  | outOfMemory => "out of memory"
  | other => "other error"

end FaultKind

mutual

/-- One failed stream operation. -/
inductive Fault
  /-- A kind that speaks for itself. -/
  | bare (kind : FaultKind)
  /-- A kind with a message. -/
  | described (kind : FaultKind) (message : String)
  /-- A pipeline error on its way through a stream interface, under a kind. -/
  | carrying (kind : FaultKind) (error : PipelineError)

/-- A failure of a pipeline, with the layer it is attributed to where there is one. -/
inductive PipelineError
  /-- The order names a coding that the registry lacks. -/
  | unsupported (index : Nat) (name : String)
  /-- A factory could not make its layer. -/
  | construction (index : Nat) (name : String) (source : Fault)
  /-- A layer could not be finalized. -/
  | finalization (index : Nat) (name : String) (source : Fault)
  /-- The stream below failed. -/
  | stream (source : Fault)
  /-- The pipeline no longer takes part. -/
  | closed

end

deriving instance DecidableEq for Fault, PipelineError

instance : Inhabited Fault := ⟨.bare .other⟩

instance : Inhabited PipelineError := ⟨.closed⟩

/-- The kind of a fault. -/
def Fault.kind : Fault → FaultKind
  | .bare kind => kind
  | .described kind _ => kind
  | .carrying kind _ => kind

/-- The kind under which a pipeline error crosses a stream interface. -/
def PipelineError.kind : PipelineError → FaultKind
  | .unsupported _ _ => .unsupported
  | .construction _ _ _ => .invalidInput
  | .finalization _ _ source => source.kind
  | .stream source => source.kind
  | .closed => .other

mutual

/-- The text of a fault. -/
def Fault.message : Fault → String
  | .bare kind => kind.text
  | .described _ message => message
  | .carrying _ error => error.message

/-- The text of a pipeline error. -/
def PipelineError.message : PipelineError → String
  | .unsupported _ name => name ++ " is not supported"
  | .construction index name source =>
    "layer[" ++ toString index ++ ":" ++ name ++ "] construction failed: " ++ source.message
  | .finalization index name source =>
    "layer[" ++ toString index ++ ":" ++ name ++ "] finalize failed: " ++ source.message
  | .stream source => "pipeline i/o failed: " ++ source.message
  | .closed => "pipeline is closed"

end

/-- The layer a pipeline error is attributed to. -/
def PipelineError.layerIndex : PipelineError → Option Nat
  | .unsupported index _ => some index
  | .construction index _ _ => some index
  | .finalization index _ _ => some index
  | .stream _ => none
  | .closed => none

/-- A pipeline error as a fault, so that it can pass through a stream interface. -/
def PipelineError.toFault (error : PipelineError) : Fault := .carrying error.kind error

/-- A fault seen by a pipeline: the pipeline error it carries, if it carries one. -/
def Fault.toPipelineError : Fault → PipelineError
  | .carrying _ error => error
  | .bare kind => .stream (.bare kind)
  | .described kind message => .stream (.described kind message)

/-- Whether the failed call may simply be made again. -/
def Fault.isInterruption (fault : Fault) : Bool := fault.kind == .interrupted

/-- A pipeline error survives the crossing into a fault and back. -/
theorem PipelineError.toPipelineError_toFault (error : PipelineError) :
    error.toFault.toPipelineError = error := rfl

/-- Crossing into a fault keeps the kind. -/
theorem PipelineError.kind_toFault (error : PipelineError) : error.toFault.kind = error.kind := rfl

/-- Crossing into a fault keeps the text. -/
theorem PipelineError.message_toFault (error : PipelineError) :
    error.toFault.message = error.message := by
  simp [PipelineError.toFault, Fault.message]

end ContentCoding
