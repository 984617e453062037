import ContentCoding.Amount
import ContentCoding.Lzw.Code
import Std.Data.HashMap

/-!
# LZW encoding

The encoder keeps the code of the longest known string that ends its input so
far. A byte that does not extend it to a known string sends that code, and the
extended string gets the next free code. When the codes run out the table is
cleared. The stream starts with a clear code and ends with an end code.

The table keeps up to sixteen extensions of a string in a small list. The next one makes
room for any number of them, but is not entered itself: it takes a code that is never
sent, and is taken for new when it comes again.

Output is held in a bit queue and spilled whole bytes at a time, before a code
would no longer fit a word of 64 bits. A call also stops when the room for output
is used up, and can then be made again.

An encoder that is told to end sends the end code as soon as it has no more input. If it
is given more input after that, it takes the end code for the string before, so it sends
that code once more. Calls that end the stream report whether it is complete. As long as it
is not, they report that there is more to do, even if there was no room for any of it.
-/

namespace ContentCoding.Lzw

/-- The state of an encoder. -/
structure Packing where
  /-- Codes of the longer strings, by the code of all but the last byte and that byte. -/
  table : Std.HashMap Nat Nat := ∅
  /-- How many extensions each string has been given. -/
  branches : Std.HashMap Nat Nat := ∅
  /-- The next code to assign. -/
  free : Nat := firstFree
  /-- Bits of the next code to send. -/
  width : Nat := minWidth
  /-- The code of the longest known string at the end of the input, or the end code once that
  has been sent. -/
  pending : Option Nat := none
  /-- Bits that have not been written. -/
  held : BitQueue := BitQueue.push {} clearCode minWidth
  /-- Whether the encoder has been told to end. -/
  ended : Bool := false

/-- How many extensions of a string fit the small list. -/
def smallList : Nat := 16

namespace Packing

/-- The key under which a string extended by a byte is found. -/
def key (code : Nat) (byte : UInt8) : Nat := code * 256 + byte.toNat

/-- Send a code. -/
def send (packing : Packing) (code : Nat) : Packing :=
  { packing with held := packing.held.push code packing.width }

/-- Give the next code to an extended string. Codes grow by a bit when the new
one needs it, and the table is cleared instead of assigning a code too many. -/
def assign (packing : Packing) (code : Nat) (byte : UInt8) : Packing :=
  match packing with
  | ⟨table, branches, free, width, pending, held, ended⟩ =>
    if free = codeLimit then
      ⟨∅, ∅, firstFree, minWidth, pending, held.push clearCode width, ended⟩
    else
      let before := branches.getD code 0
      ⟨if before = smallList then table else table.insert (key code byte) free,
        branches.insert code (before + 1), free + 1,
        if free = twoTo width ∧ width < maxWidth then width + 1 else width,
        pending, held, ended⟩

/-- Take one byte of input. The flag tells whether a code was sent. -/
def extend (packing : Packing) (byte : UInt8) : Packing × Bool :=
  match packing.pending with
  | none => ({ packing with pending := some byte.toNat }, false)
  | some code =>
    match packing.table[key code byte]? with
    | some longer => ({ packing with pending := some longer }, false)
    | none =>
      let packing := { (packing.send code) with pending := some byte.toNat }
      (packing.assign code byte, true)

/-- An encoder part way through its output. -/
structure Spill where
  /-- The encoder. -/
  packing : Packing
  /-- The output so far, reversed. -/
  output : Bytes
  /-- How much more output there is room for. -/
  room : Nat
  /-- Whether whole bytes were left over. -/
  blocked : Bool

/-- Write out whole bytes. -/
def spillAll (packing : Packing) (room : Nat) (output : Bytes) : Spill :=
  match packing with
  | ⟨table, branches, free, width, pending, held, ended⟩ =>
    let want := held.count / 8
    let count := min want room
    let (held, output) := held.drain count output
    ⟨⟨table, branches, free, width, pending, held, ended⟩, output, room - count, count < want⟩

/-- Write out whole bytes if two more codes might not fit a word. -/
def spill (packing : Packing) (room : Nat) (output : Bytes) : Spill :=
  if packing.held.count + 2 * packing.width < 64 then ⟨packing, output, room, false⟩
  else packing.spillAll room output

/-- What an encoder reports of a call. -/
inductive Report
  /-- All of the stream has been put out. -/
  | ended
  /-- There is more to do. -/
  | going
  /-- Nothing could be done. -/
  | idle
  deriving DecidableEq, Repr

/-- How far an encoder got with its input. -/
structure Feeding where
  /-- The output. -/
  output : Bytes
  /-- The input that was not taken. -/
  rest : Bytes
  /-- The encoder. -/
  packing : Packing
  /-- What it reports. -/
  report : Report

/-- Send the pending code and the end code, padded to a byte. The decoder gains
one more entry before it sees the end code, so that code may be a bit wider. -/
def terminate (packing : Packing) : Packing :=
  let packing := match packing.pending with
    | none => packing
    | some code =>
      let packing := packing.send code
      if twoTo packing.width ≤ packing.free ∧ packing.width < maxWidth then
        { packing with width := packing.width + 1 }
      else packing
  let packing := packing.send endCode
  { packing with pending := some endCode, held := packing.held.pad }

/-- Send the end code, unless that has been done, and write out all whole bytes. -/
def conclude (packing : Packing) (room : Nat) (output : Bytes) : Feeding :=
  let packing := if packing.pending = some endCode then packing else packing.terminate
  match packing.spillAll room output with
  | ⟨packing, output, _, blocked⟩ =>
    ⟨output.reverse, [], packing, if blocked then .going else .ended⟩

/-- Take input until there is none left or the room for output is used up. If the encoder has been
told to end and sends a code with the last byte, it also ends the stream. -/
def feedFrom : Bytes → Packing → (room : Nat) → (output : Bytes) → Feeding
  | [], packing, _, output => ⟨output.reverse, [], packing, .going⟩
  | byte :: rest, packing, room, output =>
    match packing.extend byte with
    | (packing, false) => feedFrom rest packing room output
    | (packing, true) =>
      match packing.spill room output with
      | ⟨packing, output, _, true⟩ => ⟨output.reverse, rest, packing, .going⟩
      | ⟨packing, output, room, false⟩ =>
        if rest.isEmpty && packing.ended then packing.conclude room output
        else feedFrom rest packing room output

/-- Encode input into a given room. -/
def feed (packing : Packing) (room : Nat) (input : Bytes) : Feeding :=
  match packing.spill room [] with
  | ⟨packing, output, _, true⟩ => ⟨output.reverse, input, packing, .going⟩
  | ⟨packing, output, room, false⟩ =>
    if input.isEmpty && packing.ended then packing.conclude room output
    else feedFrom input packing room output

/-- Tell the encoder to end. -/
def told (packing : Packing) : Packing := { packing with ended := true }

/-- Telling the encoder to end leaves what is pending. -/
@[simp] theorem told_pending (packing : Packing) : packing.told.pending = packing.pending := rfl

/-- Telling the encoder to end leaves the bits that are held. -/
@[simp] theorem told_held (packing : Packing) : packing.told.held = packing.held := rfl

/-- Telling the encoder to end leaves the width of codes. -/
@[simp] theorem told_width (packing : Packing) : packing.told.width = packing.width := rfl

/-- End the stream into a given room. -/
def finish (packing : Packing) (room : Nat) : Feeding := packing.told.feed room []

/-- The bits that ending the stream still puts out, at most, and one more before it is ended. -/
def remaining (packing : Packing) : Nat :=
  packing.held.count + if packing.pending = some endCode then 0 else 2 * packing.width + 9

variable {packing : Packing} {output : Bytes} {room : Nat}

/-! ### What a call brings about -/

/-- Draining takes as many bits as it gives bytes. -/
theorem drain_count (held : BitQueue) (count : Nat) (output : Bytes) :
    (held.drain count output).1.count = held.count - 8 * count := by
  induction count generalizing held output with
  | zero => rfl
  | succ count ih =>
    rw [BitQueue.drain, ih]
    dsimp only
    omega

/-- Draining gives as many bytes as it is told to. -/
theorem drain_length (held : BitQueue) (count : Nat) (output : Bytes) :
    (held.drain count output).2.length = output.length + count := by
  induction count generalizing held output with
  | zero => rfl
  | succ count ih =>
    rw [BitQueue.drain, ih, List.length_cons]
    omega

/-- What spilling all whole bytes comes to. -/
theorem spillAll_eq (packing : Packing) (room : Nat) (output : Bytes) :
    packing.spillAll room output =
      ⟨{ packing with
          held := (packing.held.drain (min (packing.held.count / 8) room) output).1 },
        (packing.held.drain (min (packing.held.count / 8) room) output).2,
        room - min (packing.held.count / 8) room,
        decide (min (packing.held.count / 8) room < packing.held.count / 8)⟩ := rfl

/-- Spilling that is blocked fills its room, and changes nothing if there is none. -/
theorem spillAll_blocked (h : (packing.spillAll room output).blocked = true) :
    (packing.spillAll room output).output.length = output.length + room ∧
      8 * (room + 1) ≤ packing.held.count ∧
      (packing.spillAll room output).packing.held.count = packing.held.count - 8 * room ∧
      (room = 0 → (packing.spillAll room output).packing = packing) := by
  rw [spillAll_eq] at h ⊢
  have hless := of_decide_eq_true h
  have hroom : min (packing.held.count / 8) room = room := by omega
  dsimp only
  rw [hroom]
  refine ⟨drain_length _ _ _, by omega, drain_count _ _ _, ?_⟩
  rintro rfl
  rfl

/-- So does spilling that is made only if another code might not fit. -/
theorem spill_blocked (h : (packing.spill room output).blocked = true) :
    (packing.spill room output).output.length = output.length + room ∧
      8 * (room + 1) ≤ packing.held.count ∧
      (packing.spill room output).packing.held.count = packing.held.count - 8 * room ∧
      (room = 0 → (packing.spill room output).packing = packing) := by
  rw [spill] at h ⊢
  split
  · rename_i hfits
    rw [if_pos hfits] at h
    cases h
  · rename_i hfull
    rw [if_neg hfull] at h
    exact spillAll_blocked h

/-- An encoder that is given input leaves less than there was. -/
theorem feedFrom_rest (byte : UInt8) (input : Bytes) (packing : Packing) (room : Nat)
    (output : Bytes) :
    (feedFrom (byte :: input) packing room output).rest.length ≤ input.length := by
  induction input generalizing byte packing room output with
  | nil =>
    rw [feedFrom]
    split
    · exact Nat.le_refl _
    · split
      · exact Nat.le_refl _
      · split
        · exact Nat.le_refl _
        · exact Nat.le_refl _
  | cons next input ih =>
    rw [feedFrom]
    split
    · exact Nat.le_succ_of_le (ih _ _ _ _)
    · split
      · exact Nat.le_refl _
      · split
        · exact Nat.zero_le _
        · exact Nat.le_succ_of_le (ih _ _ _ _)

/-- An encoder that cannot start takes nothing and puts out what there is room for. -/
theorem feed_of_blocked {input : Bytes} (h : (packing.spill room []).blocked = true) :
    packing.feed room input =
      ⟨(packing.spill room []).output.reverse, input, (packing.spill room []).packing,
        .going⟩ := by
  rw [feed]
  generalize packing.spill room [] = result at h
  obtain ⟨spilled, output, left, blocked⟩ := result
  cases h
  rfl

/-- Otherwise it takes what it can. -/
theorem feed_of_open {input : Bytes} (hinput : input ≠ [])
    (h : (packing.spill room []).blocked = false) :
    packing.feed room input = feedFrom input (packing.spill room []).packing
      (packing.spill room []).room (packing.spill room []).output := by
  rw [feed]
  generalize packing.spill room [] = result at h
  obtain ⟨spilled, output, left, blocked⟩ := result
  cases h
  cases input with
  | nil => exact absurd rfl hinput
  | cons byte input => rfl

/-- A call that is given input takes some of it, or fills the room that it has. Without any room it
may change nothing. -/
theorem feed_progress {input : Bytes} (hinput : input ≠ []) :
    (packing.feed room input).rest.length < input.length ∨
      (packing.feed room input).rest = input ∧
        ((packing.feed room input).packing.held.count < packing.held.count ∧
            (packing.feed room input).output ≠ [] ∨
          room = 0 ∧ (packing.feed room input).output = [] ∧
            (packing.feed room input).packing = packing) := by
  cases hblocked : (packing.spill room []).blocked with
  | false =>
    rw [feed_of_open hinput hblocked]
    cases input with
    | nil => exact absurd rfl hinput
    | cons byte input => exact .inl (Nat.lt_succ_of_le (feedFrom_rest byte input _ _ _))
  | true =>
    obtain ⟨hlength, hmore, hcount, hsame⟩ := spill_blocked hblocked
    rw [List.length_nil, Nat.zero_add] at hlength
    rw [feed_of_blocked hblocked]
    refine .inr ⟨rfl, ?_⟩
    by_cases hroom : room = 0
    · have hnone : (packing.spill room []).output = [] :=
        List.eq_nil_of_length_eq_zero (hlength.trans hroom)
      exact .inr ⟨hroom, by rw [hnone, List.reverse_nil], hsame hroom⟩
    · refine .inl ⟨?_, ?_⟩
      · dsimp only
        omega
      · rw [Ne, List.reverse_eq_nil_iff]
        exact fun hnone => hroom (hlength.symm.trans (congrArg List.length hnone))

/-- With some room a call that is given input has an effect. -/
theorem feed_effect {input : Bytes} (hroom : 1 ≤ room) (hinput : input ≠ []) :
    ¬((packing.feed room input).rest.length = input.length ∧
      (packing.feed room input).output = []) := by
  rintro ⟨hrest, hnone⟩
  rcases @feed_progress packing room input hinput with hless | ⟨-, ⟨-, hsome⟩ | ⟨hzero, -⟩⟩
  · exact Nat.ne_of_lt hless hrest
  · exact hsome hnone
  · exact Nat.ne_of_gt hroom hzero

/-- A call that has an effect takes input or leaves fewer bits. -/
theorem feed_fewer {input : Bytes} (hinput : input ≠ [])
    (h : ¬((packing.feed room input).rest.length = input.length ∧
      (packing.feed room input).output = [])) :
    (packing.feed room input).rest.length < input.length ∨
      (packing.feed room input).rest.length = input.length ∧
        (packing.feed room input).packing.held.count < packing.held.count := by
  rcases @feed_progress packing room input hinput with hless | ⟨hrest, ⟨hcount, -⟩ | ⟨-, hnone, -⟩⟩
  · exact .inl hless
  · exact .inr ⟨congrArg List.length hrest, hcount⟩
  · exact absurd ⟨congrArg List.length hrest, hnone⟩ h

end Packing

end ContentCoding.Lzw
