import ContentCoding.Lifecycle
import ContentCoding.Registry

/-!
# Stacks and chains of layers

A stack is what the layers of one direction form over a port, the caller's
stream with what a pipeline keeps about it. It is indexed by its depth, so that
the type says that no call changes the number of layers. A chain is a stack
with the list of its layers' names by construction index.

`LayerKind` and `Medium` say what the two directions supply: how a layer is
made on a stack, finalized over it and destroyed over it. Building, the walk of
a close and the destruction of a stack are written once for both.

Each layer of a stack keeps the name it was asked for by. Only the chain's list
is consulted when a close attributes an error.
-/

namespace ContentCoding

/-- What comes of asking a factory for a layer. -/
inductive Construction {K : Type 1} (S : K → Type) : Type 1
  /-- The new layer and its first state. -/
  | built (kind : K) (state : S kind)
  /-- The factory reports a fault. -/
  | refused (fault : Fault)
  /-- The factory breaks off without an answer. -/
  | crashed

/-- Layers over a port, the last one constructed on top. -/
inductive Stack {K : Type 1} (S : K → Type) : Nat → Type 1
  /-- No layer. -/
  | bottom : Stack S 0
  /-- A named layer with its state, over a stack. -/
  | layer {depth : Nat} (name : String) (kind : K) (state : S kind) (below : Stack S depth) :
    Stack S (depth + 1)

/-- What can be asked of a layer by itself. -/
class LayerKind {K : Type 1} (S : K → Type) where
  /-- Whether there is anything to finalize. -/
  finalizes : (kind : K) → S kind → Bool
  /-- Whether the layer below can be reached through this one. -/
  exposes : (kind : K) → S kind → Bool

/-- What layers over a port do to the stack below them when they are made, finalized
or destroyed. -/
class Medium {K : Type 1} (S : K → Type) (F : outParam (Type 1)) (P : Type) where
  /-- Ask a factory for a layer on top of a stack. -/
  construct : {depth : Nat} → F → Stack S depth → P → Construction S × Stack S depth × P
  /-- Finalize a layer over a stack. -/
  finalize : {depth : Nat} → (kind : K) → S kind → Stack S depth → P →
    (Except Fault Unit × S kind) × Stack S depth × P
  /-- Destroy a layer over a stack. -/
  teardown : {depth : Nat} → (kind : K) → S kind → Stack S depth → P → Stack S depth × P

variable {K : Type 1} {S : K → Type} {F : Type 1} {P : Type}

namespace Stack

/-- Names of the layers by construction index. -/
def names : {depth : Nat} → Stack S depth → List String
  | _, .bottom => []
  | _, .layer name _ _ below => below.names ++ [name]

/-- There is one name for each layer. -/
theorem length_names {depth : Nat} (stack : Stack S depth) : stack.names.length = depth := by
  induction stack with
  | bottom => rfl
  | layer name kind state below ih => simp [names, ih]

section Closing

variable [LayerKind S]

/-- Whether the top layer has anything to finalize. Without a layer there is
nothing: the caller's stream is never finalized. -/
def finalizes {depth : Nat} : Stack S depth → Bool
  | .bottom => false
  | .layer _ kind state _ => LayerKind.finalizes kind state

variable [Medium S F P]

/-- Finalize the top layer alone. -/
def finalizeTop {depth : Nat} : Stack S depth → P → Except Fault Unit × Stack S depth × P
  | .bottom, port => (.ok (), .bottom, port)
  | .layer name kind state below, port =>
    let ((answer, state), below, port) := Medium.finalize kind state below port
    (answer, .layer name kind state below, port)

/-- Walk along names with their indices and down a stack at the same time, and finalize
each layer that has anything to finalize. The walk ends with the names or the layers, after
the first failure, and after the first layer that does not expose the one below. -/
def finalizeAlong : List (String × Nat) → {depth : Nat} → Stack S depth → P →
    Except PipelineError Unit × Stack S depth × P
  | (name, index) :: names, _, .layer label kind state below, port =>
    let ((answer, state), below, port) :=
      if LayerKind.finalizes kind state then Medium.finalize kind state below port
      else ((.ok (), state), below, port)
    match answer with
    | .error fault =>
      (.error (.finalization index name fault), .layer label kind state below, port)
    | .ok () =>
      if LayerKind.exposes kind state then
        let (result, below, port) := finalizeAlong names below port
        (result, .layer label kind state below, port)
      else (.ok (), .layer label kind state below, port)
  | _, _, stack, port => (.ok (), stack, port)

end Closing

/-- Destroy the layers from the top down. -/
def teardown [Medium S F P] : {depth : Nat} → Stack S depth → P → P
  | _, .bottom, port => port
  | _, .layer _ kind state below, port =>
    let (below, port) := Medium.teardown kind state below port
    teardown below port

end Stack

/-- A stack of whatever depth it was built to, with the names of its layers. -/
structure Chain {K : Type 1} (S : K → Type) : Type 1 where
  /-- Number of layers. -/
  depth : Nat
  /-- The layers. -/
  stack : Stack S depth
  /-- The names by construction index. -/
  names : List String

namespace Chain

/-- Realize names on top of a chain, from left to right. The first name that is unknown,
or whose factory reports a fault or breaks off, ends the building, and the layers built
until then are destroyed, last one first. -/
def realize [Medium S F P] (registry : Registry F) :
    List String → Chain S → P → Building (Chain S) × P
  | [], chain, port => (.built chain, port)
  | name :: rest, ⟨depth, stack, names⟩, port =>
    match registry.lookup names.length name with
    | .error error => (.failed error, stack.teardown port)
    | .ok factory =>
      match Medium.construct factory stack port with
      | (.built kind state, below, port) =>
        realize registry rest ⟨depth + 1, .layer name kind state below, names ++ [name]⟩ port
      | (.refused fault, below, port) =>
        (.failed (.construction names.length name fault), below.teardown port)
      | (.crashed, below, port) => (.crashed, below.teardown port)

/-- Build the chain of an order on a base. Blank names are passed over. -/
def build [Medium S F P] (registry : Registry F) (order : List String) (base : Stack S 0)
    (port : P) : Building (Chain S) × P :=
  realize registry (order.filter (· != "")) ⟨0, base, []⟩ port

/-- Finalize the layers, last constructed first. -/
def finalizeAll [LayerKind S] [Medium S F P] :
    Chain S → P → Except PipelineError Unit × Chain S × P
  | ⟨depth, stack, names⟩, port =>
    let (result, stack, port) := stack.finalizeAlong names.zipIdx.reverse port
    (result, ⟨depth, stack, names⟩, port)

/-- Destroy the layers, last constructed first. -/
def teardown [Medium S F P] (chain : Chain S) (port : P) : P := chain.stack.teardown port

end Chain

end ContentCoding
