import ContentCoding.Lzw.Unpacking

/-!
# LZW decoding

The decoder is called with some input and room for some output. It takes input
into a queue of 64 bits, eight bytes at most at a time, so it may hold whole codes
when the input is used up. Between calls it also keeps the string of the last code
as far as there was no room for it.

After a string the decoder decodes code after code until one is missing or there
is no room for its string, and looks at the next code even if there is no room at
all. A clear code always ends the call. The first code after a clear code is taken
alone, and the others after it only if it gives a string.
-/

namespace ContentCoding.Lzw

/-- The state of a decoder between calls. -/
structure Decoding where
  /-- What it knows about codes. -/
  unpacking : Unpacking := {}
  /-- Bits that have been taken from the input and not been decoded. -/
  held : BitQueue := {}
  /-- Output that there was no room for. -/
  waiting : Bytes := []

/-- How a call of the decoder ends. -/
inductive CallStatus
  /-- The stream goes on. -/
  | going
  /-- The stream has ended. -/
  | ended
  /-- The last code cannot occur. -/
  | invalid
  deriving DecidableEq, Repr

/-- What a call of the decoder comes to. -/
structure Call where
  /-- The output. -/
  output : Bytes
  /-- The input that was not taken. -/
  rest : Bytes
  /-- The decoder. -/
  decoding : Decoding
  /-- How it ended. -/
  status : CallStatus

/-- What the next code comes to. -/
inductive Taken
  /-- It gives a string. -/
  | string (bytes : Bytes) (unpacking : Unpacking) (held : BitQueue)
  /-- It gives none, or is not there yet, and the call ends. -/
  | stop (decoding : Decoding) (status : CallStatus)

/-- Take the next code out of the bits that are held. -/
def takeCode (unpacking : Unpacking) (held : BitQueue) : Taken :=
  match held.next? unpacking.width with
  | none => .stop ⟨unpacking, held, []⟩ .going
  | some (code, held) =>
    match unpacking.accept code with
    | .cleared => .stop ⟨{}, held, []⟩ .going
    | .ended => .stop ⟨unpacking, held, []⟩ .ended
    | .invalid => .stop ⟨{ unpacking with previous := none }, held, []⟩ .invalid
    | .string bytes next => .string bytes next held

/-- A byte that is appended has eight bits. -/
theorem BitQueue.append_bits (limit : Nat) (queue : BitQueue) (bytes : Bytes) :
    (queue.append limit bytes).1.count + 8 * (queue.append limit bytes).2.length =
      queue.count + 8 * bytes.length := by
  induction limit generalizing queue bytes with
  | zero => rfl
  | succ limit ih =>
    cases bytes with
    | nil => rfl
    | cons byte bytes =>
      have hrest := ih (queue.push byte.toNat 8) bytes
      rw [BitQueue.append, hrest, BitQueue.push, List.length_cons]
      dsimp only
      omega

/-- A code that gives a string makes the held bits fewer. -/
theorem takeCode_count {unpacking next : Unpacking} {held left : BitQueue} {bytes : Bytes}
    (h : takeCode unpacking held = .string bytes next left) : left.count < held.count := by
  have hwidth : 9 ≤ unpacking.width := unpacking.narrow
  unfold takeCode BitQueue.next? at h
  split at h
  · cases h
  · rename_i code rest hcode
    split at hcode
    · cases hcode
    · obtain ⟨rfl, rfl⟩ := Prod.mk.inj (Option.some.inj hcode)
      split at h
      · cases h
      · cases h
      · cases h
      · cases h
        change held.count - unpacking.width < held.count
        omega

/-- Decode codes until one gives no string, or one there is no room for. The output is
passed along reversed. -/
def decodeCodes (unpacking : Unpacking) (held : BitQueue) (input : Bytes) (room : Nat)
    (output : Bytes) : Call :=
  match _hfilled : held.refill input with
  | (filled, rest) =>
    match _htaken : takeCode unpacking filled with
    | .stop decoding status => ⟨output.reverse, rest, decoding, status⟩
    | .string bytes next left =>
      if room < bytes.length then ⟨output.reverse, rest, ⟨next, left, bytes⟩, .going⟩
      else decodeCodes next left rest (room - bytes.length) (bytes.reverseAux output)
termination_by held.count + 8 * input.length
decreasing_by
  have hfewer := takeCode_count _htaken
  have hbits : (held.refill input).1.count + 8 * (held.refill input).2.length =
      held.count + 8 * input.length := BitQueue.append_bits _ held input
  rw [_hfilled] at hbits
  dsimp only at hbits
  omega

namespace Decoding

/-- Put out what is waiting, and decode on if there was room for it. -/
def deliver (decoding : Decoding) (input : Bytes) (room : Nat) : Call :=
  match decoding with
  | ⟨unpacking, held, waiting⟩ =>
    if room < waiting.length then
      ⟨waiting.take room, input, ⟨unpacking, held, waiting.drop room⟩, .going⟩
    else decodeCodes unpacking held input (room - waiting.length) waiting.reverse

/-- Call the decoder with some input and room for some output. -/
def decode (decoding : Decoding) (input : Bytes) (room : Nat) : Call :=
  match decoding with
  | ⟨unpacking, held, waiting⟩ =>
    match unpacking.previous with
    | some _ => deliver ⟨unpacking, held, waiting⟩ input room
    | none =>
      let (held, rest) := if held.count < unpacking.width then held.refill input else (held, input)
      match takeCode unpacking held with
      | .stop decoding status => ⟨[], rest, decoding, status⟩
      | .string bytes next held => deliver ⟨next, held, bytes⟩ rest room

end Decoding

end ContentCoding.Lzw
