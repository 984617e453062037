import ContentCoding.SharedGuard

/-!
# Building once under every schedule

Two invariants hold along every schedule. `Locked` says that the thread that is
in the middle of a call with the lock is the one that the lock knows. `Course`
says how far the one building is: ahead, under way in the hands of one thread, or
over, and for each of these what the guard keeps and where the threads can be.

From them it follows that a chain is built at most once, that all calls answer
with what came of it, and that nobody sees a chain that has not been stored. No
schedule brings the threads into a position from which one of them cannot finish.
-/

namespace ContentCoding

universe u v w x

/-- What a building leaves in a guard that had nothing but a base. -/
def Building.aftermath {S : Type u} {T : Type v} : Building T → InitGuard S T
  | .built chain => ⟨.built, none, .built chain⟩
  | .failed error => ⟨.failed, some error, .failed⟩
  | .crashed => ⟨.unbuilt, none, .failed⟩

namespace Step

variable {S : Type u} {T : Type v}

/-- The steps that are open to a thread while the mark has not been set. -/
def waits : Step S T → Prop
  | arrive | ask | recheck | take | come => True
  | left seen => seen = none
  | _ => False

/-- The steps that are open to a thread once it is known what came of the building. -/
def heeds (outcome : Building T) : Step S T → Prop
  | arrive | ask | recheck | come => True
  | fetch _ => ∃ error, outcome = .failed error
  | take | crashed => outcome = .crashed
  | restore found => outcome = .crashed ∧ found = .failed
  | release answer | returned answer => answer = outcome.verdict
  | await | look => ∃ chain, outcome = .built chain
  | leave seen => ∃ chain, outcome = .built chain ∧ seen = some chain
  | left seen => ∀ chain, seen = some chain → outcome = .built chain
  | _ => False

/-- The steps of an observer that has a chain to see. -/
def sees (chain : T) : Step S T → Prop
  | come | await | look => True
  | leave seen | left seen => seen = some chain
  | _ => False

/-- How many steps a thread still has to do at most. -/
def remaining : Step S T → Nat
  | arrive => 8
  | ask => 7
  | recheck => 6
  | take => 5
  | build _ | come => 4
  | store _ | keep _ | await => 3
  | announce .. | restore _ | fetch _ | look => 2
  | release _ | unwind | leave _ => 1
  | returned _ | crashed | left _ => 0

/-- A thread that waits without the lock goes on to heed whatever comes of the building. -/
theorem heeds_of_waits {step : Step S T} (waits : step.waits) (free : step.holds = false)
    (outcome : Building T) : step.heeds outcome := by
  cases step <;> simp_all [Step.waits, heeds, holds]

/-- A thread that has returned or broken off does not have the lock. -/
theorem holds_eq_false_of_ended {step : Step S T} (h : step.ended = true) :
    step.holds = false := by
  cases step <;> simp_all [ended, holds]

end Step

namespace SharedGuard

variable {P : Type w} {S : Type u} {T : Type v} {W : Type x}
variable {builds : P → S → W → Building T × W} {shared : SharedGuard P S T W} {thread : P}

/-- The lock knows the thread that is in the middle of a call with it. -/
def Locked (shared : SharedGuard P S T W) : Prop :=
  ∀ thread, (shared.steps thread).holds = true ↔ shared.holder = some thread

theorem locked_start (roles : P → Role) (base : S) (world : W) :
    (start roles base world : SharedGuard P S T W).Locked := by
  intro thread
  cases h : roles thread <;> simp [start, Role.first, h, Step.holds]

/-- No other thread is in the middle of a call with the lock. -/
theorem Locked.alone (lock : shared.Locked) (h : (shared.steps thread).holds = true) {other : P}
    (ne : other ≠ thread) : (shared.steps other).holds = false := by
  by_contra hc
  have ho := (lock other).mp (by simpa using hc)
  rw [(lock thread).mp h] at ho
  exact ne (Option.some.inj ho).symm

variable [DecidableEq P]

@[simp] theorem move_steps_self (next : Step S T) :
    (shared.move thread next).steps thread = next :=
  Function.update_self ..

theorem move_steps_of_ne (shared : SharedGuard P S T W) {thread other : P} (h : other ≠ thread)
    (next : Step S T) :
    (shared.move thread next).steps other = shared.steps other :=
  Function.update_of_ne h ..

@[simp] theorem move_guard (next : Step S T) : (shared.move thread next).guard = shared.guard := rfl

@[simp] theorem move_holder (next : Step S T) :
    (shared.move thread next).holder = shared.holder := rfl

@[simp] theorem move_world (next : Step S T) : (shared.move thread next).world = shared.world := rfl

/-- Asking for the lock gets it or leaves everything as it is. -/
theorem acquire_cases (shared : SharedGuard P S T W) (thread : P) (next : Step S T) :
    (shared.holder = none ∧
        shared.acquire thread next = { shared.move thread next with holder := some thread }) ∨
      (∃ owner, shared.holder = some owner ∧ shared.acquire thread next = shared) := by
  unfold acquire
  cases h : shared.holder with
  | none => exact .inl ⟨rfl, rfl⟩
  | some owner => exact .inr ⟨owner, rfl, rfl⟩

/-- A step moves no other thread. -/
theorem step_steps_of_ne {other : P} (h : other ≠ thread) :
    (shared.step builds thread).steps other = shared.steps other := by
  have moved := fun next : Step S T => shared.move_steps_of_ne h next
  have acquired (next : Step S T) :
      (shared.acquire thread next).steps other = shared.steps other := by
    rcases shared.acquire_cases thread next with ⟨-, hs⟩ | ⟨owner, -, hs⟩
    · rw [hs]
      exact moved next
    · rw [hs]
  unfold step
  cases shared.steps thread <;> first | rfl | exact moved _ | exact acquired _

theorem run_append (builds : P → S → W → Building T × W) (first second : List P) :
    shared.run builds (first ++ second) = (shared.run builds first).run builds second :=
  List.foldl_append

/-! ### The lock -/

/-- A step leaves a thread's claim to the lock as it is, gets it the lock while that is
free, or gives the lock back. -/
theorem step_lock_cases (builds : P → S → W → Building T × W) (shared : SharedGuard P S T W)
    (thread : P) :
    ((shared.step builds thread).holder = shared.holder ∧
        ((shared.step builds thread).steps thread).holds = (shared.steps thread).holds) ∨
      (shared.holder = none ∧ (shared.step builds thread).holder = some thread ∧
        ((shared.step builds thread).steps thread).holds = true) ∨
      ((shared.steps thread).holds = true ∧ (shared.step builds thread).holder = none ∧
        ((shared.step builds thread).steps thread).holds = false) := by
  have acquired (next : Step S T) (hn : next.holds = true)
      (hs : (shared.step builds thread) = shared.acquire thread next) :
      ((shared.step builds thread).holder = shared.holder ∧
          ((shared.step builds thread).steps thread).holds = (shared.steps thread).holds) ∨
        (shared.holder = none ∧ (shared.step builds thread).holder = some thread ∧
          ((shared.step builds thread).steps thread).holds = true) := by
    rw [hs]
    rcases shared.acquire_cases thread next with ⟨hf, ha⟩ | ⟨owner, -, ha⟩
    · rw [ha]
      exact .inr ⟨hf, rfl, by simpa using hn⟩
    · rw [ha]
      exact .inl ⟨rfl, rfl⟩
  cases h : shared.steps thread with
  | ask => exact (acquired .recheck rfl (by simp [step, h])).imp (h ▸ id) .inl
  | await => exact (acquired .look rfl (by simp [step, h])).imp (h ▸ id) .inl
  | unwind => simp [step, h, Step.holds]
  | release => simp [step, h, Step.holds]
  | leave => simp [step, h, Step.holds]
  | arrive =>
    cases hp : shared.guard.phase <;>
      simp [step, h, hp, Step.afterMark, Step.answer, Step.holds]
  | recheck =>
    cases hp : shared.guard.phase <;>
      simp [step, h, hp, Step.afterMark, Step.answer, Step.holds]
  | fetch locked => cases locked <;> simp [step, h, Step.answer, Step.holds]
  | take =>
    cases hs : shared.guard.state <;> simp [step, h, hs, Step.afterTaking, Step.holds]
  | build base =>
    cases hb : (builds thread base shared.world).1 <;>
      simp [step, h, hb, Step.afterBuilding, Step.holds]
  | come => cases hb : shared.guard.isBuilt <;> simp [step, h, hb, Step.holds]
  | _ => simp [step, h, Step.holds]

theorem Locked.step (lock : shared.Locked) (thread : P) :
    (shared.step builds thread).Locked := by
  intro other
  have known := lock other
  by_cases ne : other = thread
  · subst ne
    rcases step_lock_cases builds shared other with ⟨hl, hs⟩ | ⟨-, hl, hs⟩ | ⟨-, hl, hs⟩
    · rw [hl, hs]
      exact known
    · simp [hl, hs]
    · simp [hl, hs]
  · rw [step_steps_of_ne ne]
    rcases step_lock_cases builds shared thread with ⟨hl, -⟩ | ⟨hf, hl, -⟩ | ⟨hh, hl, -⟩
    · rw [hl]
      exact known
    · rw [hf] at known
      simpa [hl, Ne.symm ne] using known
    · simp [hl, lock.alone hh ne]

theorem Locked.run (lock : shared.Locked) (schedule : List P) :
    (shared.run builds schedule).Locked := by
  induction schedule generalizing shared with
  | nil => exact lock
  | cons thread schedule ih => exact ih (lock.step thread)

/-! ### The one building -/

variable {base : S} {world : W} {builder : P}

/-- Where a thread is that builds, with what the guard keeps and the world then. -/
inductive Midway (built : Building T × W) (base : S) (world : W) :
    Step S T → InitGuard S T → W → Prop
  /-- It is about to build. -/
  | building : Midway built base world (.build base) ⟨.unbuilt, none, .failed⟩ world
  /-- It has a chain. -/
  | storing {chain} (h : built.1 = .built chain) :
      Midway built base world (.store chain) ⟨.unbuilt, none, .failed⟩ built.2
  /-- It has stored the chain. -/
  | announcing {chain} (h : built.1 = .built chain) :
      Midway built base world (.announce .built (.ok ())) ⟨.unbuilt, none, .built chain⟩ built.2
  /-- It has an error. -/
  | keeping {error} (h : built.1 = .failed error) :
      Midway built base world (.keep error) ⟨.unbuilt, none, .failed⟩ built.2
  /-- It has kept the error. -/
  | warning {error} (h : built.1 = .failed error) :
      Midway built base world (.announce .failed (.error error))
        ⟨.unbuilt, some error, .failed⟩ built.2
  /-- It breaks off. -/
  | unwinding (h : built.1 = .crashed) :
      Midway built base world .unwind ⟨.unbuilt, none, .failed⟩ built.2

/-- What is settled once a thread is through with its building. -/
structure Settled (built : Building T × W) (builder : P) (shared : SharedGuard P S T W) :
    Prop where
  /-- The guard tells what came of it. -/
  guard : shared.guard = built.1.aftermath
  /-- Nothing else touches the world. -/
  world : shared.world = built.2
  /-- The lock is poisoned if it broke off. -/
  poisoned : shared.poisoned = true ↔ built.1 = .crashed
  /-- Every thread goes by what came of it. -/
  heeds : ∀ thread, (shared.steps thread).heeds built.1
  /-- Only the builder breaks off. -/
  crashed : ∀ thread, shared.steps thread = .crashed → thread = builder

/-- How far the one building is, by the threads that have entered it. -/
inductive Course (builds : P → S → W → Building T × W) (base : S) (world : W)
    (shared : SharedGuard P S T W) : List P → Prop
  /-- It is ahead. -/
  | ahead (guard : shared.guard = .start base) (same : shared.world = world)
      (clean : shared.poisoned = false) (waits : ∀ thread, (shared.steps thread).waits) :
      Course builds base world shared []
  /-- It is under way. -/
  | underway {builder : P}
      (midway : Midway (builds builder base world) base world (shared.steps builder)
        shared.guard shared.world)
      (clean : shared.poisoned = false)
      (waits : ∀ thread, thread ≠ builder → (shared.steps thread).waits) :
      Course builds base world shared [builder]
  /-- It is over. -/
  | passed {builder : P} (settled : shared.Settled (builds builder base world) builder) :
      Course builds base world shared [builder]

omit [DecidableEq P] in
theorem course_start (builds : P → S → W → Building T × W) (roles : P → Role) (base : S)
    (world : W) : Course builds base world (start roles base world) [] := by
  refine .ahead rfl rfl rfl fun thread => ?_
  cases h : roles thread <;> simp [start, Role.first, h, Step.waits]

/-- A thread that builds has the lock. -/
theorem Midway.holds {built : Building T × W} {step : Step S T} {guard : InitGuard S T}
    {present : W} (h : Midway built base world step guard present) : step.holds = true := by
  cases h <;> rfl

/-- A thread that builds has taken what the lock protects. -/
theorem Midway.ne_take {built : Building T × W} {step : Step S T} {guard : InitGuard S T}
    {present : W} (h : Midway built base world step guard present) : step ≠ .take := by
  cases h <;> nofun

/-- The mark is not set before a building is over. -/
theorem Midway.unset {built : Building T × W} {step : Step S T} {guard : InitGuard S T}
    {present : W} (h : Midway built base world step guard present) : guard.phase = .unbuilt := by
  cases h <;> rfl

/-- A step that moves a thread, and at most gets it the lock or gives that back. -/
def Moves (builds : P → S → W → Building T × W) (shared : SharedGuard P S T W) (thread : P)
    (next : Step S T) : Prop :=
  ∃ holder, shared.step builds thread = { shared.move thread next with holder }

/-- A thread that waits while the mark has not been set goes on waiting, unless it takes
what the lock protects. -/
theorem step_waits (builds : P → S → W → Building T × W)
    (unset : shared.guard.phase = .unbuilt) (waits : (shared.steps thread).waits)
    (ne : shared.steps thread ≠ .take) :
    shared.step builds thread = shared ∨
      ∃ next : Step S T, next.waits ∧ Moves builds shared thread next := by
  cases h : shared.steps thread with
  | arrive =>
    exact .inr ⟨.ask, trivial, shared.holder, by simp [step, h, unset, Step.afterMark, move]⟩
  | ask =>
    rcases shared.acquire_cases thread .recheck with ⟨-, ha⟩ | ⟨owner, -, ha⟩
    · exact .inr ⟨.recheck, trivial, some thread, by simp [step, h, ha]⟩
    · exact .inl (by simp [step, h, ha])
  | recheck =>
    exact .inr ⟨.take, trivial, shared.holder, by simp [step, h, unset, Step.afterMark, move]⟩
  | take => exact absurd h ne
  | come =>
    exact .inr ⟨.left none, rfl, shared.holder, by simp [step, h, InitGuard.isBuilt, unset, move]⟩
  | left seen => exact .inl (by simp [step, h])
  | _ => simp [h, Step.waits] at waits

/-- The steps that other threads wait in do not change with a step of the builder. -/
theorem waits_step (builds : P → S → W → Building T × W)
    (waits : ∀ other, other ≠ thread → (shared.steps other).waits) :
    ∀ other, other ≠ thread → ((shared.step builds thread).steps other).waits := by
  intro other ne
  rw [step_steps_of_ne ne]
  exact waits other ne

/-- A waiting thread that takes what the lock protects finds the base, and builds. -/
theorem course_of_take (builds : P → S → W → Building T × W) (guard : shared.guard = .start base)
    (same : shared.world = world) (clean : shared.poisoned = false)
    (waits : ∀ other, (shared.steps other).waits)
    (h : shared.steps thread = .take) :
    shared.enters thread = true ∧
      Course builds base world (shared.step builds thread) [thread] := by
  have hstep : shared.step builds thread =
      { shared.move thread (.build base) with guard := ⟨.unbuilt, none, .failed⟩ } := by
    simp [SharedGuard.step, h, guard, InitGuard.start, Step.afterTaking]
  refine ⟨by simp [enters, h, guard, InitGuard.start], .underway ?_ ?_ ?_⟩
  · have present : (shared.step builds thread).world = world := by simpa [hstep] using same
    rw [present]
    simpa [hstep] using .building
  · simpa [hstep, move] using clean
  · exact waits_step builds fun other _ => waits other

/-- The last step of a building settles everything. -/
theorem settled_of_last (builds : P → S → W → Building T × W) {built : Building T × W}
    (lock : shared.Locked) (holds : (shared.steps thread).holds = true)
    (waits : ∀ other, other ≠ thread → (shared.steps other).waits)
    (guard : (shared.step builds thread).guard = built.1.aftermath)
    (world : (shared.step builds thread).world = built.2)
    (poisoned : (shared.step builds thread).poisoned = true ↔ built.1 = .crashed)
    (heeds : ((shared.step builds thread).steps thread).heeds built.1) :
    (shared.step builds thread).Settled built thread := by
  have others (other : P) (ne : other ≠ thread) :
      ((shared.step builds thread).steps other).heeds built.1 ∧
        (shared.step builds thread).steps other ≠ .crashed := by
    rw [step_steps_of_ne ne]
    refine ⟨Step.heeds_of_waits (waits other ne) (lock.alone holds ne) built.1, fun hc => ?_⟩
    have := waits other ne
    rw [hc] at this
    exact this
  refine ⟨guard, world, poisoned, fun other => ?_, fun other hc => ?_⟩
  · by_cases ne : other = thread
    · exact ne ▸ heeds
    · exact (others other ne).1
  · by_contra ne
    exact (others other ne).2 hc

/-- A builder goes on with its building, or ends it. -/
theorem course_of_midway (lock : shared.Locked)
    (midway : Midway (builds thread base world) base world (shared.steps thread) shared.guard
      shared.world)
    (clean : shared.poisoned = false)
    (waits : ∀ other, other ≠ thread → (shared.steps other).waits) :
    Course builds base world (shared.step builds thread) [thread] := by
  have others := waits_step builds waits
  have holds := midway.holds
  have last := @settled_of_last _ _ _ _ shared thread _ builds (builds thread base world) lock
    holds waits
  generalize hs : shared.steps thread = step at midway
  generalize hg : shared.guard = guard at midway
  generalize hw : shared.world = present at midway
  cases midway with
  | building =>
    rcases hb : builds thread base world with ⟨outcome, after⟩
    have hstep : shared.step builds thread =
        { shared.move thread (.afterBuilding outcome) with world := after } := by
      simp [SharedGuard.step, hs, hw, hb]
    refine .underway ?_ (by simpa [hstep, move] using clean) others
    cases outcome with
    | built chain => simpa [hstep, hg, hb, Step.afterBuilding] using .storing rfl
    | failed error => simpa [hstep, hg, hb, Step.afterBuilding] using .keeping rfl
    | crashed => simpa [hstep, hg, hb, Step.afterBuilding] using .unwinding rfl
  | storing h =>
    refine .underway ?_ (by simpa [SharedGuard.step, hs, move] using clean) others
    simpa [SharedGuard.step, hs, hg, hw] using .announcing h
  | keeping h =>
    refine .underway ?_ (by simpa [SharedGuard.step, hs, move] using clean) others
    simpa [SharedGuard.step, hs, hg, hw] using .warning h
  | announcing h =>
    refine .passed (last ?_ ?_ ?_ ?_) <;>
      simp [SharedGuard.step, hs, hg, hw, h, clean, move, Building.aftermath, Step.heeds,
        Building.verdict]
  | warning h =>
    refine .passed (last ?_ ?_ ?_ ?_) <;>
      simp [SharedGuard.step, hs, hg, hw, h, clean, move, Building.aftermath, Step.heeds,
        Building.verdict]
  | unwinding h =>
    refine .passed (last ?_ ?_ ?_ ?_) <;>
      simp [SharedGuard.step, hs, hg, hw, h, move, Building.aftermath, Step.heeds]

/-- What a caller does about the mark that a building left heeds the building. -/
theorem heeds_afterMark (outcome : Building T) (locked : Bool) :
    (.afterMark locked (outcome.aftermath : InitGuard S T).phase : Step S T).heeds outcome ∧
      (.afterMark locked (outcome.aftermath : InitGuard S T).phase : Step S T) ≠ .crashed := by
  cases outcome <;> cases locked <;>
    simp [Building.aftermath, Step.afterMark, Step.answer, Step.heeds, Building.verdict]

/-- A thread that goes by what came of the building changes nothing and goes on to do so. -/
theorem step_heeds (builds : P → S → W → Building T × W) {outcome : Building T}
    (guard : shared.guard = outcome.aftermath) (heeds : (shared.steps thread).heeds outcome) :
    shared.step builds thread = shared ∨
      ∃ next : Step S T, next.heeds outcome ∧ next ≠ .crashed ∧
        Moves builds shared thread next := by
  have locks (next : Step S T) (hn : next.heeds outcome) (ne : next ≠ .crashed)
      (hs : shared.step builds thread = shared.acquire thread next) :
      shared.step builds thread = shared ∨
        ∃ next : Step S T, next.heeds outcome ∧ next ≠ .crashed ∧
          Moves builds shared thread next := by
    rcases shared.acquire_cases thread next with ⟨-, ha⟩ | ⟨owner, -, ha⟩
    · exact .inr ⟨next, hn, ne, some thread, hs.trans ha⟩
    · exact .inl (hs.trans ha)
  cases h : shared.steps thread with
  | arrive =>
    obtain ⟨hn, ne⟩ := heeds_afterMark (S := S) outcome false
    exact .inr ⟨_, hn, ne, shared.holder, by simp [step, h, guard, move]⟩
  | recheck =>
    obtain ⟨hn, ne⟩ := heeds_afterMark (S := S) outcome true
    exact .inr ⟨_, hn, ne, shared.holder, by simp [step, h, guard, move]⟩
  | fetch locked =>
    rw [h] at heeds
    obtain ⟨error, rfl⟩ := heeds
    refine .inr ⟨.answer locked (.error error), ?_, ?_, shared.holder, ?_⟩
    · cases locked <;> rfl
    · cases locked <;> nofun
    · simp [step, h, guard, Building.aftermath, move]
  | ask => exact locks .recheck trivial nofun (by simp [step, h])
  | take =>
    rw [h] at heeds
    obtain rfl : outcome = .crashed := heeds
    refine .inr ⟨.restore .failed, ⟨rfl, rfl⟩, nofun, shared.holder, ?_⟩
    simp [step, h, guard, Building.aftermath, Step.afterTaking, move]
  | restore found =>
    rw [h] at heeds
    obtain ⟨rfl, rfl⟩ := heeds
    refine .inr ⟨.release (.error .closed), rfl, nofun, shared.holder, ?_⟩
    simp [step, h, guard, Building.aftermath, move]
  | release answer =>
    rw [h] at heeds
    exact .inr ⟨.returned answer, heeds, nofun, none, by simp [step, h]⟩
  | come =>
    cases outcome with
    | built chain =>
      refine .inr ⟨.await, ⟨chain, rfl⟩, nofun, shared.holder, ?_⟩
      simp [step, h, guard, Building.aftermath, InitGuard.isBuilt, move]
    | failed error =>
      refine .inr ⟨.left none, nofun, nofun, shared.holder, ?_⟩
      simp [step, h, guard, Building.aftermath, InitGuard.isBuilt, move]
    | crashed =>
      refine .inr ⟨.left none, nofun, nofun, shared.holder, ?_⟩
      simp [step, h, guard, Building.aftermath, InitGuard.isBuilt, move]
  | await =>
    rw [h] at heeds
    exact locks .look heeds nofun (by simp [step, h])
  | look =>
    rw [h] at heeds
    obtain ⟨chain, rfl⟩ := heeds
    refine .inr ⟨.leave (some chain), ⟨chain, rfl, rfl⟩, nofun, shared.holder, ?_⟩
    simp [step, h, guard, Building.aftermath, ChainState.chain?, move]
  | leave seen =>
    rw [h] at heeds
    obtain ⟨chain, rfl, rfl⟩ := heeds
    refine .inr ⟨.left (some chain), fun other hs => ?_, nofun, none, by simp [step, h]⟩
    rw [Option.some.inj hs]
  | returned answer => exact .inl (by simp [step, h])
  | crashed => exact .inl (by simp [step, h])
  | left seen => exact .inl (by simp [step, h])
  | build base => simp [h, Step.heeds] at heeds
  | store chain => simp [h, Step.heeds] at heeds
  | keep error => simp [h, Step.heeds] at heeds
  | announce mark answer => simp [h, Step.heeds] at heeds
  | unwind => simp [h, Step.heeds] at heeds

/-- What is settled stays so. -/
theorem Settled.step {built : Building T × W} (settled : shared.Settled built builder)
    (thread : P) : (shared.step builds thread).Settled built builder := by
  rcases step_heeds builds settled.guard (settled.heeds thread) with
    same | ⟨next, heeds, ne, holder, moved⟩
  · rwa [same]
  rw [moved]
  refine ⟨settled.guard, settled.world, settled.poisoned, ?_, ?_⟩
  · exact (Function.forall_update_iff shared.steps fun _ step => step.heeds built.1).mpr
      ⟨heeds, fun other _ => settled.heeds other⟩
  · exact (Function.forall_update_iff shared.steps
      fun other step => step = .crashed → other = builder).mpr
        ⟨fun hc => absurd hc ne, fun other _ => settled.crashed other⟩

omit [DecidableEq P] in
/-- A thread that does not take what the lock protects enters nothing. -/
theorem enters_eq_false (h : shared.steps thread ≠ .take) : shared.enters thread = false := by
  unfold enters
  split
  · exact absurd ‹_› h
  · rfl

omit [DecidableEq P] in
/-- What a building leaves is nothing to enter. -/
theorem Settled.enters_eq_false {built : Building T × W} (settled : shared.Settled built builder)
    (thread : P) : shared.enters thread = false := by
  unfold enters
  rw [settled.guard]
  cases built.1 <;> simp [Building.aftermath]

/-- Every step keeps to the course. -/
theorem Course.step {entered : List P} (course : Course builds base world shared entered)
    (lock : shared.Locked) (thread : P) :
    Course builds base world (shared.step builds thread)
      (entered ++ if shared.enters thread then [thread] else []) := by
  cases course with
  | ahead guard same clean waits =>
    by_cases h : shared.steps thread = .take
    · obtain ⟨hin, under⟩ := course_of_take builds guard same clean waits h
      simpa [hin] using under
    · rw [enters_eq_false h]
      rcases step_waits builds (by rw [guard]; rfl) (waits thread) h with
        idle | ⟨next, hn, holder, moved⟩
      · rw [idle]
        exact .ahead guard same clean waits
      · rw [moved]
        exact .ahead guard same clean
          ((Function.forall_update_iff shared.steps fun _ step => step.waits).mpr
            ⟨hn, fun other _ => waits other⟩)
  | @underway builder midway clean waits =>
    by_cases eq : thread = builder
    · subst eq
      simpa [enters_eq_false midway.ne_take] using course_of_midway lock midway clean waits
    · have free := lock.alone midway.holds eq
      have h : shared.steps thread ≠ .take := fun h => by simp [h, Step.holds] at free
      rw [enters_eq_false h]
      rcases step_waits builds midway.unset (waits thread eq) h with
        idle | ⟨next, hn, holder, moved⟩
      · rw [idle]
        exact .underway midway clean waits
      · rw [moved]
        refine .underway ?_ clean
          ((Function.forall_update_iff shared.steps
            fun other step => other ≠ builder → step.waits).mpr
            ⟨fun _ => hn, fun other _ => waits other⟩)
        simpa [shared.move_steps_of_ne (Ne.symm eq)] using midway
  | @passed builder settled =>
    rw [settled.enters_eq_false]
    simpa using Course.passed (settled.step thread)

/-- Every schedule keeps to the course. -/
theorem Course.run {entered : List P} (course : Course builds base world shared entered)
    (lock : shared.Locked) (schedule : List P) :
    Course builds base world (shared.run builds schedule)
      (entered ++ shared.entries builds schedule) := by
  induction schedule generalizing shared entered with
  | nil => simpa [SharedGuard.run, entries] using course
  | cons thread schedule ih =>
    simpa [entries, SharedGuard.run] using ih (course.step lock thread) (lock.step thread)

/-! ### What threads learn -/

omit [DecidableEq P] in
/-- Not more than one thread enters a building. -/
theorem Course.length_le {entered : List P} (course : Course builds base world shared entered) :
    entered.length ≤ 1 := by
  cases course <;> simp

omit [DecidableEq P] in
/-- A thread that neither waits nor builds knows what came of the building. -/
theorem Course.settled {entered : List P} (course : Course builds base world shared entered)
    (thread : P)
    (hw : ¬(shared.steps thread).waits)
    (hb : ∀ built guard present, ¬Midway built base world (shared.steps thread) guard present) :
    ∃ builder, entered = [builder] ∧ shared.Settled (builds builder base world) builder := by
  cases course with
  | ahead guard same clean waits => exact absurd (waits thread) hw
  | @underway builder midway clean waits =>
    by_cases eq : thread = builder
    · subst eq
      exact absurd midway (hb _ _ _)
    · exact absurd (waits thread eq) hw
  | @passed builder settled => exact ⟨builder, rfl, settled⟩

omit [DecidableEq P] in
/-- A caller that has returned answers with what came of the building. -/
theorem Course.returned {entered : List P} (course : Course builds base world shared entered)
    {answer : Except PipelineError Unit} (h : shared.steps thread = .returned answer) :
    ∃ builder, entered = [builder] ∧ shared.Settled (builds builder base world) builder ∧
      answer = (builds builder base world).1.verdict := by
  obtain ⟨builder, hin, settled⟩ := course.settled thread
    (by simp [h, Step.waits]) (fun _ _ _ hm => by rw [h] at hm; cases hm)
  have heeds := settled.heeds thread
  rw [h] at heeds
  exact ⟨builder, hin, settled, heeds⟩

omit [DecidableEq P] in
/-- Only the thread whose building broke off breaks off. -/
theorem Course.crashed {entered : List P} (course : Course builds base world shared entered)
    (h : shared.steps thread = .crashed) :
    entered = [thread] ∧ (builds thread base world).1 = .crashed := by
  obtain ⟨builder, hin, settled⟩ := course.settled thread
    (by simp [h, Step.waits]) (fun _ _ _ hm => by rw [h] at hm; cases hm)
  have heeds := settled.heeds thread
  obtain rfl := settled.crashed thread h
  rw [h] at heeds
  exact ⟨hin, heeds⟩

omit [DecidableEq P] in
/-- An observer sees a chain only once that is stored and the mark is set. -/
theorem Course.seen {entered : List P} (course : Course builds base world shared entered)
    {chain : T} (h : (shared.steps thread).seen? = some chain) :
    ∃ builder, entered = [builder] ∧ (builds builder base world).1 = .built chain ∧
      shared.guard = ⟨.built, none, .built chain⟩ := by
  have hs : shared.steps thread = .leave (some chain) ∨
      shared.steps thread = .left (some chain) := by
    cases hs : shared.steps thread <;> simp_all [Step.seen?]
  obtain ⟨builder, hin, settled⟩ := course.settled thread
    (by rcases hs with hs | hs <;> simp [hs, Step.waits])
    (fun _ _ _ hm => by rcases hs with hs | hs <;> · rw [hs] at hm; cases hm)
  have built : (builds builder base world).1 = .built chain := by
    have heeds := settled.heeds thread
    rcases hs with hs | hs
    · rw [hs] at heeds
      obtain ⟨other, hb, hc⟩ := heeds
      rw [hb, Option.some.inj hc]
    · rw [hs] at heeds
      exact heeds chain rfl
  exact ⟨builder, hin, built, settled.guard.trans (by rw [built]; rfl)⟩

/-- An observer that has a chain to see goes on towards it. -/
theorem sees_step {chain : T} (builds : P → S → W → Building T × W)
    (guard : shared.guard = ⟨.built, none, .built chain⟩)
    (sees : (shared.steps thread).sees chain) :
    ((shared.step builds thread).steps thread).sees chain := by
  have locks (hs : shared.step builds thread = shared.acquire thread .look) :
      ((shared.step builds thread).steps thread).sees chain := by
    rw [hs]
    rcases shared.acquire_cases thread .look with ⟨-, ha⟩ | ⟨owner, -, ha⟩
    · simp [ha, Step.sees]
    · rwa [ha]
  cases h : shared.steps thread with
  | come => simp [step, h, guard, InitGuard.isBuilt, Step.sees]
  | await => exact locks (by simp [step, h])
  | look => simp [step, h, guard, ChainState.chain?, Step.sees]
  | leave seen =>
    rw [h] at sees
    simpa [step, h, Step.sees] using sees
  | left seen =>
    rw [h] at sees
    simpa [step, h, Step.sees] using sees
  | _ => simp [h, Step.sees] at sees

/-- An observer that comes after the chain was stored sees it, whatever the schedule. -/
theorem Settled.sees {chain : T} (settled : shared.Settled (builds builder base world) builder)
    (thread : P) (built : (builds builder base world).1 = .built chain)
    (sees : (shared.steps thread).sees chain) (schedule : List P) :
    ((shared.run builds schedule).steps thread).sees chain := by
  induction schedule generalizing shared with
  | nil => exact sees
  | cons other schedule ih =>
    refine ih (settled.step other) ?_
    by_cases eq : thread = other
    · subst eq
      exact sees_step builds (settled.guard.trans (by rw [built]; rfl)) sees
    · rwa [step_steps_of_ne eq]

/-! ### No thread is stuck -/

/-- A thread that has the lock, or finds it free, gets on. -/
theorem remaining_step (builds : P → S → W → Building T × W)
    (able : (shared.steps thread).holds = true ∨ shared.holder = none)
    (busy : (shared.steps thread).ended = false) :
    ((shared.step builds thread).steps thread).remaining < (shared.steps thread).remaining := by
  have gets (next : Step S T) (hn : next.remaining < (shared.steps thread).remaining)
      (idle : (shared.steps thread).holds = false)
      (hs : shared.step builds thread = shared.acquire thread next) :
      ((shared.step builds thread).steps thread).remaining <
        (shared.steps thread).remaining := by
    have free : shared.holder = none := able.resolve_left (by simp [idle])
    rcases shared.acquire_cases thread next with ⟨-, ha⟩ | ⟨owner, hf, -⟩
    · rw [hs, ha]
      simpa using hn
    · rw [free] at hf
      cases hf
  cases h : shared.steps thread with
  | arrive =>
    cases hp : shared.guard.phase <;>
      simp [step, h, hp, Step.afterMark, Step.answer, Step.remaining]
  | fetch locked => cases locked <;> simp [step, h, Step.answer, Step.remaining]
  | ask =>
    exact h ▸ gets .recheck (by simp [h, Step.remaining]) (by rw [h]; rfl) (by simp [step, h])
  | recheck =>
    cases hp : shared.guard.phase <;>
      simp [step, h, hp, Step.afterMark, Step.answer, Step.remaining]
  | take => cases hs : shared.guard.state <;> simp [step, h, hs, Step.afterTaking, Step.remaining]
  | build base =>
    cases hb : (builds thread base shared.world).1 <;>
      simp [step, h, hb, Step.afterBuilding, Step.remaining]
  | come => cases hb : shared.guard.isBuilt <;> simp [step, h, hb, Step.remaining]
  | await => exact h ▸ gets .look (by simp [h, Step.remaining]) (by rw [h]; rfl) (by simp [step, h])
  | returned answer => simp [h, Step.ended] at busy
  | crashed => simp [h, Step.ended] at busy
  | left seen => simp [h, Step.ended] at busy
  | _ => simp [step, h, Step.remaining]

/-- A thread that has the lock, or finds it free, still does so after a step. -/
theorem able_step (builds : P → S → W → Building T × W)
    (able : (shared.steps thread).holds = true ∨ shared.holder = none) :
    ((shared.step builds thread).steps thread).holds = true ∨
      (shared.step builds thread).holder = none := by
  rcases step_lock_cases builds shared thread with ⟨hl, hs⟩ | ⟨-, -, hs⟩ | ⟨-, hl, -⟩
  · rwa [hl, hs]
  · exact .inl hs
  · exact .inr hl

/-- A thread that has the lock, or finds it free, can be brought to its end alone, and
leaves the lock free. -/
theorem Locked.finish_alone (lock : shared.Locked) (builds : P → S → W → Building T × W)
    (thread : P)
    (able : (shared.steps thread).holds = true ∨ shared.holder = none) :
    ∃ schedule, ((shared.run builds schedule).steps thread).ended = true ∧
      (shared.run builds schedule).holder = none := by
  induction hr : (shared.steps thread).remaining using Nat.strongRecOn
    generalizing shared with
  | ind rank ih =>
    cases busy : (shared.steps thread).ended with
    | true =>
      have idle := Step.holds_eq_false_of_ended busy
      exact ⟨[], busy, able.resolve_left (by simp [idle])⟩
    | false =>
      obtain ⟨schedule, ended, free⟩ := ih _ (hr ▸ remaining_step builds able busy)
        (lock.step thread) (able_step builds able) rfl
      exact ⟨thread :: schedule, ended, free⟩

/-- Every thread can be brought to its end, after the one that has the lock. -/
theorem Locked.finish (lock : shared.Locked) (builds : P → S → W → Building T × W) (thread : P) :
    ∃ schedule, ((shared.run builds schedule).steps thread).ended = true := by
  cases h : shared.holder with
  | none =>
    obtain ⟨schedule, ended, -⟩ := lock.finish_alone builds thread (.inr h)
    exact ⟨schedule, ended⟩
  | some owner =>
    obtain ⟨first, -, free⟩ := lock.finish_alone builds owner (.inl ((lock owner).mpr h))
    obtain ⟨schedule, ended, -⟩ :=
      (lock.run first).finish_alone builds thread (.inr free)
    exact ⟨first ++ schedule, by rwa [run_append]⟩

/-! ### Alone with the guard -/

/-- Where a caller is after its call, by what the call came to. -/
def callerEnd : Outcome PipelineError Unit → Step S T
  | .done () => .returned (.ok ())
  | .failed error => .returned (.error error)
  | .crashed => .crashed

/-- A caller that is alone with the guard makes the call `InitGuard.initWith`. -/
theorem run_alone_caller (builds : P → S → W → Building T × W) (free : shared.holder = none)
    (h : shared.steps thread = .arrive) :
    let call := shared.guard.initWith (builds thread) shared.world
    ∃ poisoned, shared.run builds (List.replicate 8 thread) =
      { shared.move thread (callerEnd call.1) with
        guard := call.2.1, world := call.2.2, poisoned } := by
  obtain ⟨⟨phase, failure, state⟩, holder, poisoned, world, steps⟩ := shared
  obtain rfl : holder = none := free
  replace h : steps thread = .arrive := h
  cases phase with
  | unbuilt =>
    cases state with
    | unbuilt base =>
      rcases hb : builds thread base world with ⟨outcome, after⟩
      cases outcome <;>
        simp [run, step, h, hb, move, acquire, Step.afterMark, Step.afterTaking,
          Step.afterBuilding, callerEnd, InitGuard.initWith, InitGuard.settled]
    | _ =>
      simp [run, step, h, move, acquire, Step.afterMark, Step.afterTaking, callerEnd,
        InitGuard.initWith, InitGuard.settled]
  | _ =>
    simp [run, step, h, move, Step.afterMark, Step.answer, callerEnd, InitGuard.initWith,
      InitGuard.settled, Outcome.ofExcept]

/-- An observer that is alone with the guard makes the call `InitGuard.withBuilt`. -/
theorem run_alone_observer (builds : P → S → W → Building T × W) (free : shared.holder = none)
    (h : shared.steps thread = .come) :
    ∃ seen, shared.run builds (List.replicate 4 thread) = shared.move thread (.left seen) ∧
      ∀ {R : Type} (look : T → R), shared.guard.withBuilt look = seen.map look := by
  obtain ⟨⟨phase, failure, state⟩, holder, poisoned, world, steps⟩ := shared
  obtain rfl : holder = none := free
  replace h : steps thread = .come := h
  cases phase with
  | built =>
    refine ⟨state.chain?, ?_, fun look => ?_⟩
    · cases state <;> simp [run, step, h, move, acquire, InitGuard.isBuilt, ChainState.chain?]
    · cases state <;> rfl
  | _ => exact ⟨none, by simp [run, step, h, move, InitGuard.isBuilt], fun look => rfl⟩

/-- Under every schedule of callers and observers of a fresh guard, at most one thread
enters a building. Callers that return answer with what came of it, and only a builder
whose building broke off does not return. No observer sees a chain before it is stored and
announced, and one that comes after a caller has returned well can only see the chain, and
can be brought to see it. Every thread can be brought to its end at any time. -/
theorem building_is_single_shot (builds : P → S → W → Building T × W) (roles : P → Role)
    (base : S) (world : W) (schedule : List P) :
    let fresh : SharedGuard P S T W := start roles base world
    let shared := fresh.run builds schedule
    let entered := fresh.entries builds schedule
    entered.length ≤ 1 ∧
    (∀ caller answer, shared.steps caller = .returned answer →
      ∃ builder, entered = [builder] ∧ answer = (builds builder base world).1.verdict) ∧
    (∀ caller, shared.steps caller = .crashed →
      entered = [caller] ∧ (builds caller base world).1 = .crashed) ∧
    (∀ observer chain, (shared.steps observer).seen? = some chain →
      ∃ builder, entered = [builder] ∧ (builds builder base world).1 = .built chain ∧
        shared.guard = ⟨.built, none, .built chain⟩) ∧
    (∀ caller observer, shared.steps caller = .returned (.ok ()) →
      shared.steps observer = .come →
      ∃ builder chain, entered = [builder] ∧ (builds builder base world).1 = .built chain ∧
        (∀ later seen, (shared.run builds later).steps observer = .left seen →
          seen = some chain) ∧
        ∃ later, (shared.run builds later).steps observer = .left (some chain)) ∧
    ∀ thread, ∃ later, ((shared.run builds later).steps thread).ended = true := by
  intro fresh shared entered
  have lock : shared.Locked := (locked_start roles base world).run schedule
  have course : Course builds base world shared entered := by
    simpa using (course_start builds roles base world).run (locked_start roles base world) schedule
  refine ⟨course.length_le, fun caller answer h => ?_, fun caller h => course.crashed h,
    fun observer chain h => course.seen h, fun caller observer hc ho => ?_, lock.finish builds⟩
  · obtain ⟨builder, hin, -, ha⟩ := course.returned h
    exact ⟨builder, hin, ha⟩
  · obtain ⟨builder, hin, settled, ha⟩ := course.returned hc
    obtain ⟨chain, built⟩ : ∃ chain, (builds builder base world).1 = .built chain := by
      cases hb : (builds builder base world).1 <;> simp [hb, Building.verdict] at ha ⊢
    have sees := settled.sees observer built (by simp [ho, Step.sees])
    have only (later : List P) (seen : Option T)
        (h : (shared.run builds later).steps observer = .left seen) : seen = some chain := by
      have := sees later
      rwa [h] at this
    obtain ⟨later, ended⟩ := lock.finish builds observer
    refine ⟨builder, chain, hin, built, only, later, ?_⟩
    have := sees later
    cases h : (shared.run builds later).steps observer <;>
      simp_all [Step.sees, Step.ended]

/-- An observer that comes when a caller has built the chain gets to see it. -/
theorem observer_sees_built_chain :
    let roles (thread : Bool) : Role := if thread then .caller else .observer
    let builds (_ : Bool) (base _ : Nat) : Building Nat × Nat := (.built (base + 1), 0)
    ∃ later, (((start roles 6 0).run builds (List.replicate 8 true)).run builds later).steps
      false = .left (some 7) := by
  intro roles builds
  obtain ⟨-, -, -, -, late, -⟩ :=
    building_is_single_shot builds roles 6 0 (List.replicate 8 true)
  obtain ⟨builder, chain, -, built, -, later, seen⟩ := late true false rfl rfl
  obtain rfl : 7 = chain := Building.built.inj built
  exact ⟨later, seen⟩

end SharedGuard

end ContentCoding
