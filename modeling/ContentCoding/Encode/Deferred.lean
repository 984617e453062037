import ContentCoding.Encode.Layer
import ContentCoding.Encode.Packer

/-!
# Layers that hold what they are given

A deferred layer hands its input to a packer and writes nothing until it is
flushed or finalized. Bytes that the writer below does not take stay pending,
and go out first on the next call of any kind, so an error loses nothing.

A coding may have an opening that goes out early: by itself on the first call of
any kind, and nothing else is done before it has been taken.
-/

namespace ContentCoding

/-- The decisions in which deferred layers differ. -/
structure DeferRule where
  /-- How pending bytes are written. -/
  delivery : Push.DeliveryRule
  /-- How many interruptions one delivery puts up with. -/
  patience : Nat
  /-- What goes out ahead of any data. -/
  opening : Bytes := []
  /-- How the opening is written. -/
  openingDelivery : Push.DeliveryRule := delivery
  /-- Whether the stream is ended when the layer is destroyed. -/
  endsOnTeardown : Bool := false

/-- The state of a deferred layer. -/
structure Deferred (S : Type) where
  /-- The packer. -/
  packing : S
  /-- What is left of the opening. -/
  opening : Bytes
  /-- What the writer below has not taken yet. -/
  pending : Bytes := []
  /-- Whether the stream has been ended. -/
  ended : Bool := false

namespace Deferred

variable {packer : Packer}

/-- The layer before its first call. -/
def fresh (packer : Packer) (rule : DeferRule) : Deferred packer.State :=
  { packing := packer.start, opening := rule.opening }

/-- Write what is left of the opening, and then what is pending. -/
def send (rule : DeferRule) (layer : Deferred packer.State) :
    Push (Except Fault Unit × Deferred packer.State) :=
  (Push.deliver rule.openingDelivery rule.patience layer.opening).bind fun opening =>
    let layer := { layer with opening := opening.undelivered }
    match opening.outcome with
    | .error fault => .done (.error fault, layer)
    | .ok () =>
      (Push.deliver rule.delivery rule.patience layer.pending).map fun pending =>
        (pending.outcome, { layer with pending := pending.undelivered })

/-- Take plaintext once nothing is pending. -/
def write (rule : DeferRule) (layer : Deferred packer.State) (bytes : Bytes) :
    Push (Except Fault Nat × Deferred packer.State) :=
  (layer.send rule).map fun
    | (.error fault, layer) => (.error fault, layer)
    | (.ok (), ⟨packing, opening, pending, ended⟩) =>
      (.ok bytes.length, ⟨packer.take packing bytes, opening, pending, ended⟩)

/-- Put out all that was taken, unless the stream has been ended. -/
def pack : Deferred packer.State → Deferred packer.State
  | ⟨packing, opening, pending, false⟩ =>
    let (output, packing) := packer.flush packing
    ⟨packing, opening, pending ++ output, false⟩
  | layer => layer

/-- Write all that was taken, and flush below. -/
def flush (rule : DeferRule) (layer : Deferred packer.State) :
    Push (Except Fault Unit × Deferred packer.State) :=
  (layer.pack.send rule).bind fun
    | (.error fault, layer) => .done (.error fault, layer)
    | (.ok (), layer) => Push.forwardFlush layer

/-- End the stream, unless it has been ended. -/
def conclude : Deferred packer.State → Deferred packer.State
  | ⟨packing, opening, pending, false⟩ =>
    ⟨packing, opening, pending ++ packer.finish packing, true⟩
  | layer => layer

/-- Write all that was taken and end the stream. -/
def finalize (rule : DeferRule) (layer : Deferred packer.State) :
    Push (Except Fault Unit × Deferred packer.State) :=
  layer.conclude.send rule

end Deferred

/-- The deferred layer of a packer. -/
def Packer.encoder (packer : Packer) (rule : DeferRule) : Encoder where
  State := Deferred packer.State
  write := Deferred.write rule
  flush := Deferred.flush rule
  finalizes _ := true
  finalize := Deferred.finalize rule
  teardown layer :=
    if rule.endsOnTeardown then (layer.finalize rule).map fun _ => () else .done ()

end ContentCoding
