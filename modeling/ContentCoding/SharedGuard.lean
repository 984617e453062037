import ContentCoding.Lifecycle
import Mathlib.Logic.Function.Basic

/-!
# A guard shared between threads

Several threads may call on one guard at the same time. Callers want the chain
built, observers look at it if it stands. Each of them goes through its call in
steps that nothing can come between: reading or setting the mark, getting or
giving back the lock, taking or storing what the lock protects, keeping or
fetching the error, and the building itself. A schedule says whose step is next.

A thread that asks for the lock while another has it stays where it is. A
building that breaks off unwinds: the lock is given back and marked as poisoned,
which no later call minds.

`InitGuard.initWith` and `InitGuard.withBuilt` are the calls of a thread that is
alone with the guard.
-/

namespace ContentCoding

universe u v w x

/-- The verdict on a building, as a call that does not break off reports it. -/
def Building.verdict {C : Type u} : Building C → Except PipelineError Unit
  | .built _ => .ok ()
  | .failed error => .error error
  | .crashed => .error .closed

/-- The chain, if there is one. -/
def ChainState.chain? {S : Type u} {T : Type v} : ChainState S T → Option T
  | .built chain => some chain
  | _ => none

/-- What a thread calls on a shared guard. -/
inductive Role
  /-- It wants the chain built. -/
  | caller
  /-- It looks at the chain. -/
  | observer
  deriving DecidableEq, Repr

/-- What a thread does next. -/
inductive Step (S : Type u) (T : Type v) : Type (max u v)
  /-- A caller reads the mark. -/
  | arrive
  /-- A caller fetches the kept error, with or without the lock. -/
  | fetch (locked : Bool)
  /-- A caller asks for the lock. -/
  | ask
  /-- A caller with the lock reads the mark again. -/
  | recheck
  /-- A caller takes what the lock protects and leaves a failure in its place. -/
  | take
  /-- A caller that found no base puts back what it took. -/
  | restore (found : ChainState S T)
  /-- A caller builds the chain. -/
  | build (base : S)
  /-- A caller stores the chain. -/
  | store (chain : T)
  /-- A caller keeps the error of its building. -/
  | keep (error : PipelineError)
  /-- A caller sets the mark, and will answer. -/
  | announce (mark : Phase) (answer : Except PipelineError Unit)
  /-- A caller whose building broke off poisons the lock and gives it back. -/
  | unwind
  /-- A caller gives the lock back. -/
  | release (answer : Except PipelineError Unit)
  /-- A caller has returned. -/
  | returned (answer : Except PipelineError Unit)
  /-- A caller has broken off. -/
  | crashed
  /-- An observer reads the mark. -/
  | come
  /-- An observer asks for the lock. -/
  | await
  /-- An observer looks at what the lock protects. -/
  | look
  /-- An observer gives the lock back. -/
  | leave (seen : Option T)
  /-- An observer has returned. -/
  | left (seen : Option T)

/-- The first step of a call. -/
def Role.first {S : Type u} {T : Type v} : Role → Step S T
  | .caller => .arrive
  | .observer => .come

namespace Step

variable {S : Type u} {T : Type v}

/-- A caller that knows its answer returns, and gives back the lock before. -/
def answer (locked : Bool) (answer : Except PipelineError Unit) : Step S T :=
  if locked then .release answer else .returned answer

/-- What a caller does about a mark. While nothing was built it goes for the lock, and
with the lock for the base. -/
def afterMark (locked : Bool) : Phase → Step S T
  | .unbuilt => if locked then .take else .ask
  | .built => answer locked (.ok ())
  | .failed => .fetch locked
  | .closed => answer locked (.error .closed)

/-- What a caller does with what it took. -/
def afterTaking : ChainState S T → Step S T
  | .unbuilt base => .build base
  | found => .restore found

/-- What a caller does about what came of its building. -/
def afterBuilding : Building T → Step S T
  | .built chain => .store chain
  | .failed error => .keep error
  | .crashed => .unwind

/-- Whether a thread is in the middle of a call with the lock. -/
def holds : Step S T → Bool
  | fetch locked => locked
  | recheck | take | restore _ | build _ | store _ | keep _ | announce .. | unwind
  | release _ | look | leave _ => true
  | _ => false

/-- Whether a thread is through with its call. -/
def ended : Step S T → Bool
  | returned _ | crashed | left _ => true
  | _ => false

/-- The chain that an observer got to see. -/
def seen? : Step S T → Option T
  | leave seen | left seen => seen
  | _ => none

end Step

/-- A guard and the threads that call on it. -/
structure SharedGuard (P : Type w) (S : Type u) (T : Type v) (W : Type x) :
    Type (max u v w x) where
  /-- The guard. -/
  guard : InitGuard S T
  /-- The thread that has the lock. -/
  holder : Option P
  /-- Whether a thread broke off while it had the lock. -/
  poisoned : Bool
  /-- What buildings act on. -/
  world : W
  /-- Where the threads are. -/
  steps : P → Step S T

namespace SharedGuard

variable {P : Type w} {S : Type u} {T : Type v} {W : Type x} [DecidableEq P]

/-- A guard on which every thread is about to call. -/
def start (roles : P → Role) (base : S) (world : W) : SharedGuard P S T W :=
  ⟨.start base, none, false, world, fun thread => (roles thread).first⟩

/-- Bring a thread to its next step. -/
def move (shared : SharedGuard P S T W) (thread : P) (next : Step S T) : SharedGuard P S T W :=
  { shared with steps := Function.update shared.steps thread next }

/-- Get the lock, if nobody has it. -/
def acquire (shared : SharedGuard P S T W) (thread : P) (next : Step S T) :
    SharedGuard P S T W :=
  match shared.holder with
  | none => { shared.move thread next with holder := some thread }
  | some _ => shared

/-- Let a thread do one step. The threads bring their own ways of building. -/
def step (builds : P → S → W → Building T × W) (shared : SharedGuard P S T W) (thread : P) :
    SharedGuard P S T W :=
  let guard := shared.guard
  match shared.steps thread with
  | .arrive => shared.move thread (.afterMark false guard.phase)
  | .fetch locked => shared.move thread (.answer locked (.error (guard.failure.getD .closed)))
  | .ask => shared.acquire thread .recheck
  | .recheck => shared.move thread (.afterMark true guard.phase)
  | .take =>
    { shared.move thread (.afterTaking guard.state) with guard := { guard with state := .failed } }
  | .restore found =>
    { shared.move thread (.release (.error .closed)) with guard := { guard with state := found } }
  | .build base =>
    let (outcome, world) := builds thread base shared.world
    { shared.move thread (.afterBuilding outcome) with world }
  | .store chain =>
    { shared.move thread (.announce .built (.ok ())) with
      guard := { guard with state := .built chain } }
  | .keep error =>
    { shared.move thread (.announce .failed (.error error)) with
      guard := { guard with failure := guard.failure.or (some error) } }
  | .announce mark answer =>
    { shared.move thread (.release answer) with guard := { guard with phase := mark } }
  | .unwind => { shared.move thread .crashed with holder := none, poisoned := true }
  | .release answer => { shared.move thread (.returned answer) with holder := none }
  | .come => shared.move thread (if guard.isBuilt then .await else .left none)
  | .await => shared.acquire thread .look
  | .look => shared.move thread (.leave guard.state.chain?)
  | .leave seen => { shared.move thread (.left seen) with holder := none }
  | .returned _ | .crashed | .left _ => shared

/-- Let threads do steps in turn. -/
def run (builds : P → S → W → Building T × W) (schedule : List P)
    (shared : SharedGuard P S T W) : SharedGuard P S T W :=
  schedule.foldl (step builds) shared

/-- Whether the next step of a thread enters a building. -/
def enters (shared : SharedGuard P S T W) (thread : P) : Bool :=
  match shared.steps thread, shared.guard.state with
  | .take, .unbuilt _ => true
  | _, _ => false

/-- The threads that enter a building in a schedule, in order. -/
def entries (builds : P → S → W → Building T × W) :
    List P → SharedGuard P S T W → List P
  | [], _ => []
  | thread :: schedule, shared =>
    (if shared.enters thread then [thread] else []) ++
      (shared.step builds thread).entries builds schedule

end SharedGuard

end ContentCoding
