import ContentCoding.Compressor
import ContentCoding.Decompressor
import Mathlib.Data.List.Induction

/-!
# Runs of calls on a pipeline

A caller uses a pipeline through a finite sequence of calls. `call` gives the
reply to one call with the pipeline as the call leaves it, and `run` makes one
call after another. Every statement about what happens at any moment of a
pipeline's life is one about the pipeline after some run.
-/

namespace ContentCoding

universe u v w

section Serving

variable {X : Type u} {C : Type v} {R : Type w} (answer : X → C → R × X)

/-- What becomes of a thing that answers one request after another. -/
def serve (start : X) (requests : List C) : X :=
  requests.foldl (fun current request => (answer current request).2) start

/-- Serving ends with the last request. -/
theorem serve_concat (start : X) (requests : List C) (request : C) :
    serve answer start (requests ++ [request]) =
      (answer (serve answer start requests) request).2 := by
  simp only [serve, List.foldl_append, List.foldl_cons, List.foldl_nil]

/-- What holds at first and is kept by every answer holds after all requests. -/
theorem serve_induction {motive : List C → X → Prop} (start : X) (first : motive [] start)
    (step : ∀ requests current request, motive requests current →
      motive (requests ++ [request]) (answer current request).2)
    (requests : List C) : motive requests (serve answer start requests) := by
  induction requests using List.reverseRecOn with
  | nil => exact first
  | append_singleton requests request ih =>
    rw [serve_concat]
    exact step requests _ request ih

/-- The replies to one request after another. -/
def replies : X → List C → List R
  | _, [] => []
  | start, request :: rest => (answer start request).1 :: replies (answer start request).2 rest

/-- The last reply is given by what the requests before it have led to. -/
theorem replies_concat (start : X) (requests : List C) (request : C) :
    replies answer start (requests ++ [request]) =
      replies answer start requests ++ [(answer (serve answer start requests) request).1] := by
  induction requests generalizing start with
  | nil => rfl
  | cons first rest ih => exact congrArg _ (ih _)

end Serving

/-- What a pipeline replies to a call. -/
inductive Reply
  /-- Whether the call returned. -/
  | status (outcome : Outcome PipelineError Unit)
  /-- How many bytes were taken. -/
  | wrote (outcome : Outcome Fault Nat)
  /-- Which bytes were read. -/
  | gave (outcome : Outcome Fault Bytes)
  /-- How a flush went. -/
  | flushed (answer : Except Fault Unit)
  /-- The number of layers. -/
  | count (answer : Option Nat)
  /-- The names of the layers. -/
  | names (answer : Option (List String))
  /-- The totals. -/
  | totals (snapshot : Snapshot)

namespace Compressor

/-- A call on a compressor. -/
inductive Call
  | init
  | write (bytes : Bytes)
  | flush
  | close
  | layerCount
  | layerNames
  | snapshot

variable {σ : Type} [Sink σ]

/-- The reply to a call, and the compressor after it. -/
def call (compressor : Compressor σ) : Call → Reply × Compressor σ
  | .init => (.status compressor.init.1, compressor.init.2)
  | .write bytes => (.wrote (compressor.write bytes).1, (compressor.write bytes).2)
  | .flush => (.flushed compressor.flush.1, compressor.flush.2)
  | .close => (.status compressor.close.1, compressor.close.2)
  | .layerCount => (.count compressor.layerCount, compressor)
  | .layerNames => (.names compressor.layerNames, compressor)
  | .snapshot => (.totals compressor.snapshot, compressor)

/-- The compressor after a run of calls. -/
def run (compressor : Compressor σ) (calls : List Call) : Compressor σ :=
  serve call compressor calls

end Compressor

namespace Decompressor

/-- A call on a decompressor. -/
inductive Call
  | init
  | read (room : Nat)
  | close
  | layerCount
  | layerNames
  | snapshot

variable {σ : Type} [Source σ]

/-- The reply to a call, and the decompressor after it. -/
def call (decompressor : Decompressor σ) : Call → Reply × Decompressor σ
  | .init => (.status decompressor.init.1, decompressor.init.2)
  | .read room => (.gave (decompressor.read room).1, (decompressor.read room).2)
  | .close => (.status (.ofExcept decompressor.close.1), decompressor.close.2)
  | .layerCount => (.count decompressor.layerCount, decompressor)
  | .layerNames => (.names decompressor.layerNames, decompressor)
  | .snapshot => (.totals decompressor.snapshot, decompressor)

/-- The decompressor after a run of calls. -/
def run (decompressor : Decompressor σ) (calls : List Call) : Decompressor σ :=
  serve call decompressor calls

end Decompressor

end ContentCoding
