import ContentCoding.Fault

/-!
# The life of a pipeline

A pipeline starts with nothing but the caller's stream, and the first call that
needs its chain builds it, once. An `InitGuard` sees to that. It keeps a mark
that callers may read without taking the lock, the error of a failed building,
and the state that the lock protects.

The state is taken before a chain is built and the mark is set after. When a
factory breaks off without an answer the two disagree for good: the state says
that building failed, the mark that nothing was built, and no error is kept.
-/

namespace ContentCoding

universe u v w

/-- What the mark of a guard says. -/
inductive Phase
  /-- Nothing has been built yet. -/
  | unbuilt
  /-- The chain stands. -/
  | built
  /-- Building failed. -/
  | failed
  /-- The pipeline has been closed. -/
  | closed
  deriving DecidableEq, Repr

/-- What the lock of a guard protects. -/
inductive ChainState (S : Type u) (T : Type v) : Type (max u v)
  /-- The base that a chain will be built on. -/
  | unbuilt (base : S)
  /-- The chain. -/
  | built (chain : T)
  /-- The base was taken and no chain came of it. -/
  | failed
  /-- The pipeline has been closed. -/
  | closed

/-- What comes of building a chain. -/
inductive Building (C : Type u) : Type u
  /-- The chain stands. -/
  | built (chain : C)
  /-- An entry of the order could not be realized. -/
  | failed (error : PipelineError)
  /-- A factory broke off without an answer. -/
  | crashed

/-- What a call on a pipeline comes to. A call is cut short without an answer
only when it builds the chain and a factory breaks off. -/
inductive Outcome (ε α : Type) : Type
  /-- The call returns. -/
  | done (value : α)
  /-- The call reports a failure. -/
  | failed (error : ε)
  /-- The call breaks off. -/
  | crashed
  deriving DecidableEq

/-- The outcome of a call that always returns or reports. -/
def Outcome.ofExcept {ε α : Type} : Except ε α → Outcome ε α
  | .ok value => .done value
  | .error error => .failed error

/-- Keeper of a chain that is built once, on a base. -/
structure InitGuard (S : Type u) (T : Type v) : Type (max u v) where
  /-- The mark, readable without the lock. -/
  phase : Phase
  /-- The error of a failed building, set once. -/
  failure : Option PipelineError
  /-- What the lock protects. -/
  state : ChainState S T

namespace InitGuard

variable {S : Type u} {T : Type v} {W : Type w}

/-- The guard of a base on which nothing has been built. -/
def start (base : S) : InitGuard S T := ⟨.unbuilt, none, .unbuilt base⟩

/-- What the mark alone tells a caller. Nothing, while it says that nothing was built. -/
def settled (guard : InitGuard S T) : Option (Except PipelineError Unit) :=
  match guard.phase with
  | .built => some (.ok ())
  | .failed => some (.error (guard.failure.getD .closed))
  | .closed => some (.error .closed)
  | .unbuilt => none

/-- Build the chain in a world, unless the mark says what came of that or the base is
gone. A building that breaks off takes the base and leaves the mark as it was. -/
def initWith (build : S → W → Building T × W) (guard : InitGuard S T) (world : W) :
    Outcome PipelineError Unit × InitGuard S T × W :=
  match guard.settled with
  | some answer => (.ofExcept answer, guard, world)
  | none =>
    match guard with
    | ⟨phase, failure, .unbuilt base⟩ =>
      match build base world with
      | (.built chain, world) => (.done (), ⟨.built, failure, .built chain⟩, world)
      | (.failed error, world) =>
        (.failed error, ⟨.failed, failure.or (some error), .failed⟩, world)
      | (.crashed, world) => (.crashed, ⟨phase, failure, .failed⟩, world)
    | guard => (.failed .closed, guard, world)

/-- Whether the mark says that the chain stands. -/
def isBuilt (guard : InitGuard S T) : Bool := guard.phase == .built

/-- Whether the mark says that nothing was built. -/
def isUnbuilt (guard : InitGuard S T) : Bool := guard.phase == .unbuilt

/-- Use the chain, which may change it. Without a chain there is only an error. -/
def useBuilt {R : Type} (use : T → W → R × T × W) :
    InitGuard S T → W → Except PipelineError R × InitGuard S T × W
  | ⟨phase, failure, .built chain⟩, world =>
    let (answer, chain, world) := use chain world
    (.ok answer, ⟨phase, failure, .built chain⟩, world)
  | ⟨phase, failure, .failed⟩, world =>
    (.error (failure.getD .closed), ⟨phase, failure, .failed⟩, world)
  | guard, world => (.error .closed, guard, world)

/-- Look at the chain, if the mark says that it stands. -/
def withBuilt {R : Type} (look : T → R) (guard : InitGuard S T) : Option R :=
  if guard.isBuilt then
    match guard.state with
    | .built chain => some (look chain)
    | _ => none
  else none

/-- End every phase, and hand back the chain if there was one. -/
def close : InitGuard S T → Option T × InitGuard S T
  | ⟨_, failure, .built chain⟩ => (some chain, ⟨.closed, failure, .closed⟩)
  | ⟨_, failure, _⟩ => (none, ⟨.closed, failure, .closed⟩)

end InitGuard

end ContentCoding
