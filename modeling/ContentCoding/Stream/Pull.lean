import ContentCoding.Bytes
import ContentCoding.Fault

/-!
# What a layer does to the reader below it

The decoding counterpart of `Push`: a finite tree of read calls, each branching
on the answer. An empty answer to a read with room is the end of the stream
below.

How much a caller who reads to the end asks for at a time is up to the caller, and
may depend on what the reads before have given. `ReadSizes` says so.
-/

namespace ContentCoding

universe u v w

/-- A finite exchange with the reader below, ending in a result. -/
inductive Pull (α : Type u) : Type u
  /-- The exchange is over. -/
  | done (result : α)
  /-- Ask for at most `room` bytes. -/
  | read (room : Nat) (next : Except Fault Bytes → Pull α)
  /-- Leave a line in the journal of the pipeline. -/
  | remark (text : String) (next : Pull α)

/-- The sizes of the reads of a caller, who asks for some bytes in each of them. -/
structure ReadSizes : Type 1 where
  /-- What the sizes depend on. -/
  State : Type
  /-- How it stands before the next read. -/
  state : State
  /-- How much a read asks for. -/
  sizeOf : State → Nat
  /-- How it stands when a read has given so many bytes. -/
  given : State → Nat → State
  /-- No read asks for nothing. -/
  roomy : ∀ state, 1 ≤ sizeOf state

namespace ReadSizes

/-- The size of the next read. -/
def next (sizes : ReadSizes) : Nat := sizes.sizeOf sizes.state

/-- The sizes of the reads behind one that has given so many bytes. -/
def after (sizes : ReadSizes) (count : Nat) : ReadSizes :=
  { sizes with state := sizes.given sizes.state count }

/-- The next read asks for some bytes. -/
theorem next_pos (sizes : ReadSizes) : 1 ≤ sizes.next := sizes.roomy sizes.state

/-- Each read has the same size. -/
def fixed (size : Nat) (roomy : 1 ≤ size) : ReadSizes :=
  ⟨Unit, (), fun _ => size, fun _ _ => (), fun _ => roomy⟩

end ReadSizes

/-- The buffer of a caller who collects all output. -/
structure Collector where
  /-- How much has been collected. -/
  filled : Nat
  /-- How much there is room for in all, or zero before anything has been collected. -/
  capacity : Nat
  /-- There is room for what has been collected. -/
  fits : filled ≤ capacity

namespace Collector

/-- Nothing has been collected. -/
def empty : Collector := ⟨0, 0, Nat.le_refl 0⟩

/-- How much the first read asks for, and the least that the buffer grows by. -/
def probe : Nat := 32

/-- The most that a read asks for. -/
def most : Nat := 8192

/-- The capacity after growth. -/
def larger (capacity : Nat) : Nat := max (2 * capacity) (capacity + probe)

/-- The buffer grows by some bytes. -/
theorem lt_larger (capacity : Nat) : capacity < larger capacity :=
  Nat.lt_of_lt_of_le (Nat.lt_add_of_pos_right (by decide)) (Nat.le_max_right _ _)

/-- How much the next read asks for. -/
def room (collector : Collector) : Nat :=
  if collector.capacity = 0 then probe
  else if collector.filled < collector.capacity then
    min most (collector.capacity - collector.filled)
  else min most (larger collector.capacity - collector.filled)

/-- That is not nothing. -/
theorem room_pos (collector : Collector) : 1 ≤ collector.room := by
  have hfits := collector.fits
  have hgrows := lt_larger collector.capacity
  rw [room, probe, most]
  split
  · decide
  · split <;> omega

/-- A capacity for so much, within so many steps of growth. -/
def enlarged (filled : Nat) : (steps : Nat) → (capacity : Nat) → Nat
  | 0, capacity => capacity
  | steps + 1, capacity =>
    if filled ≤ capacity then capacity else enlarged filled steps (larger capacity)

/-- Each step gives room for another byte at least. -/
theorem le_enlarged {filled steps capacity : Nat} (h : filled ≤ capacity + steps) :
    filled ≤ enlarged filled steps capacity := by
  induction steps generalizing capacity with
  | zero => exact h
  | succ steps ih =>
    rw [enlarged]
    split
    · assumption
    · have hgrows := lt_larger capacity
      exact ih (by omega)

/-- The capacity when something is there. It is first that of what the first read gives. -/
def begun (collector : Collector) (amount : Nat) : Nat :=
  if collector.capacity = 0 then max 8 (min amount probe) else collector.capacity

/-- Nothing is given up for it. -/
theorem filled_le_begun (collector : Collector) (amount : Nat) :
    collector.filled ≤ collector.begun amount := by
  have hfits := collector.fits
  rw [begun]
  split <;> omega

/-- Collect so much more. -/
def add (collector : Collector) (amount : Nat) : Collector :=
  if amount = 0 then collector
  else
    ⟨collector.filled + amount,
      enlarged (collector.filled + amount) amount (collector.begun amount),
      le_enlarged (Nat.add_le_add_right (collector.filled_le_begun amount) amount)⟩

end Collector

/-- The sizes of the reads that fill the buffer of a caller who collects all output. -/
def ReadSizes.growing : ReadSizes :=
  ⟨Collector, .empty, Collector.room, Collector.add, Collector.room_pos⟩

/-- The calls that a `Pull` can make, as functions of a changing world. -/
structure Reader (W : Type v) where
  /-- Read at most so many bytes. -/
  read : W → Nat → Except Fault Bytes × W
  /-- Add a line to the journal. -/
  remark : W → String → W

namespace Pull

variable {α : Type u} {β : Type w}

/-- Perform an exchange against a reader. -/
def run {W : Type v} (reader : Reader W) : Pull α → W → α × W
  | .done result, world => (result, world)
  | .read room next, world =>
    let (answer, world) := reader.read world room
    run reader (next answer) world
  | .remark text next, world => run reader next (reader.remark world text)

/-- One exchange after another. -/
def bind (first : Pull α) (second : α → Pull β) : Pull β :=
  match first with
  | .done result => second result
  | .read room next => .read room fun answer => (next answer).bind second
  | .remark text next => .remark text (next.bind second)

/-- Change the result of an exchange. -/
def map (f : α → β) (exchange : Pull α) : Pull β := exchange.bind fun result => .done (f result)

/-- Running one exchange after another is running both in turn. -/
theorem run_bind {W : Type v} (reader : Reader W) (first : Pull α) (second : α → Pull β)
    (world : W) :
    (first.bind second).run reader world =
      (second (first.run reader world).1).run reader (first.run reader world).2 := by
  induction first generalizing world with
  | done result => rfl
  | read room next ih => exact ih _ _
  | remark text next ih => exact ih _

/-- Read until so many bytes are there, the stream ends or a read fails, within a
given number of reads. Interrupted reads are made again. The pieces read so far
are passed along, last one first. -/
def gather : (attempts : Nat) → (wanted : Nat) → List Bytes → Pull (Except Fault Bytes)
  | _, 0, pieces => .done (.ok pieces.reverse.flatten)
  | 0, _, _ => .done (.error (.bare .interrupted))
  | attempts + 1, wanted, pieces => .read wanted fun
    | .ok [] => .done (.ok pieces.reverse.flatten)
    | .ok bytes => gather attempts (wanted - bytes.length) (bytes :: pieces)
    | .error fault =>
      if fault.isInterruption then gather attempts wanted pieces else .done (.error fault)

/-- Read to the end of the stream, with reads of given sizes and within a given number
of them. Interrupted reads are made again. The pieces read so far are passed along,
last one first. -/
def gatherAll : (attempts : Nat) → ReadSizes → List Bytes → Pull (Except Fault Bytes)
  | 0, _, _ => .done (.error (.bare .interrupted))
  | attempts + 1, sizes, pieces => .read sizes.next fun
    | .ok [] => .done (.ok pieces.reverse.flatten)
    | .ok bytes => gatherAll attempts (sizes.after bytes.length) (bytes :: pieces)
    | .error fault =>
      if fault.isInterruption then gatherAll attempts sizes pieces else .done (.error fault)

end Pull

end ContentCoding
