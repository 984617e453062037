import ContentCoding.Decode.Layer
import ContentCoding.Encode.Layer
import ContentCoding.Lzw.Decoding
import ContentCoding.Lzw.Packing

/-!
# LZW layers

The encoding layer drives the encoder through a scratch space of fixed size and
writes each filling of it to the writer below. What the encoder has put out is
gone from it, so bytes that the writer below refuses are lost. Flushing hands
nothing on but the flush: partial codes stay in the encoder until finalizing.

Writing stops as soon as a round neither takes input nor puts out bytes, which happens
only without any scratch space. Finalizing goes by what the encoder reports. That it can do
nothing more it never reports, so without scratch space there is always another round. As
with interruptions, only a `patience` ends this, and then finalizing gives up as interrupted.

The decoding layer calls the decoder until there is output, or it is known that there
is none. Before a call it fills its buffer if that is used up. It tells from the numbers
of bytes alone whether the stream is cut short, or the decoder is stuck. A clear code
takes no input and gives no output if its bits were already in the decoder, so where
another one went before it the stream passes for cut short or stuck. Output of a call
that ends in a code that cannot occur is dropped.
-/

namespace ContentCoding.Lzw

/-- The state of the encoding layer. -/
structure WriterState where
  /-- The encoder. -/
  packing : Packing := {}
  /-- Whether the end code has gone out. -/
  finished : Bool := false

/-- The report of a write after finalizing. -/
def alreadyFinalized : Fault := .described .other "compress layer already finalized"

/-- The report of a round of writing without effect. -/
def noProgress : Fault := .described .writeZero "lzw: encoder made no progress"

/-- The report of a round of finalizing without effect. -/
def noEndCode : Fault := .described .writeZero "lzw: end code was not emitted"

/-- Encode input and write it below, round by round. -/
def writeRounds (patience scratch total : Nat) (packing : Packing) (input : Bytes) :
    Push (Except Fault Nat × WriterState) :=
  if _hnone : input = [] then .done (.ok total, { packing })
  else
    let fed := packing.feed scratch input
    (Push.writeAll patience fed.output).bind fun
      | .error fault => .done (.error fault, { packing := fed.packing })
      | .ok () =>
        if _h : fed.rest.length = input.length ∧ fed.output = [] then
          .done (.error noProgress, { packing := fed.packing })
        else writeRounds patience scratch total fed.packing fed.rest
termination_by (input.length, packing.held.count)
decreasing_by
  rcases Packing.feed_fewer _hnone _h with hless | ⟨hsame, hless⟩
  · exact Prod.Lex.left _ _ hless
  · rw [hsame]
    exact Prod.Lex.right _ hless

section Writing

variable (patience scratch total : Nat) (packing : Packing)

/-- Without input there is nothing to write. -/
theorem writeRounds_nil :
    writeRounds patience scratch total packing [] = .done (.ok total, { packing }) := by
  rw [writeRounds, dif_pos rfl]

/-- With input there is a round, and others follow unless it was without effect. -/
theorem writeRounds_of_ne {input : Bytes} (h : input ≠ []) :
    writeRounds patience scratch total packing input =
      (Push.writeAll patience (packing.feed scratch input).output).bind fun
        | .error fault => .done (.error fault, { packing := (packing.feed scratch input).packing })
        | .ok () =>
          if (packing.feed scratch input).rest.length = input.length ∧
              (packing.feed scratch input).output = [] then
            .done (.error noProgress, { packing := (packing.feed scratch input).packing })
          else writeRounds patience scratch total (packing.feed scratch input).packing
            (packing.feed scratch input).rest := by
  rw [writeRounds, dif_neg h]
  simp only [dite_eq_ite]

end Writing

/-- End the stream and write it below, round by round. Nothing comes of it if more rounds follow
than there may be. -/
def finishRounds (patience scratch : Nat) : (rounds : Nat) → Packing →
    Push (Option (Except Fault Unit × WriterState))
  | 0, _ => .done none
  | rounds + 1, packing =>
    let ending := packing.finish scratch
    (Push.writeAll patience ending.output).bind fun
      | .error fault => .done (some (.error fault, { packing := ending.packing }))
      | .ok () =>
        match ending.report with
        | .ended => .done (some (.ok (), ⟨ending.packing, true⟩))
        | .going => finishRounds patience scratch rounds ending.packing
        | .idle =>
          if ending.output = [] then .done (some (.error noEndCode, { packing := ending.packing }))
          else finishRounds patience scratch rounds ending.packing

/-- The encoding layer with a scratch space of a given size. -/
def encoder (patience scratch : Nat) : Encoder where
  State := WriterState
  write state bytes :=
    if state.finished then .done (.error alreadyFinalized, state)
    else writeRounds patience scratch bytes.length state.packing bytes
  flush := Push.forwardFlush
  finalizes _ := true
  finalize state :=
    if state.finished then .done (.ok (), state)
    else
      -- with some scratch space there are never more rounds than that
      (finishRounds patience scratch (patience + state.packing.remaining + 1) state.packing).map
        fun result => result.getD (.error (.bare .interrupted), state)

/-- The state of the decoding layer. -/
structure ReaderState where
  /-- The decoder. -/
  decoding : Decoding := {}
  /-- What is left of the input in the buffer. -/
  input : Bytes := []
  /-- Whether the reader below has ended. -/
  exhausted : Bool := false
  /-- Whether the end code has been decoded. -/
  done : Bool := false

/-- The report of a code that cannot occur. -/
def invalidCode : Fault := .described .invalidData "lzw: invalid code in LZW stream"

/-- The report of a stream without an end code. -/
def truncated : Fault := .described .unexpectedEof "lzw: stream ended before end code"

/-- The report of a call of the decoder without effect. -/
def stuck : Fault := .described .invalidData "lzw: decoder made no progress"

/-- What calling the decoder with what is in the buffer comes to. -/
inductive Attempt
  /-- The read can be answered. -/
  | answered (answer : Except Fault Bytes) (state : ReaderState)
  /-- The buffer is used up. -/
  | starved (decoding : Decoding)

/-- Call the decoder until a read can be answered or the buffer is used up. -/
def attempt (room : Nat) (exhausted : Bool) (decoding : Decoding) (input : Bytes) : Attempt :=
  match decoding.decode input room with
  | ⟨output, rest, decoding, .ended⟩ => .answered (.ok output) ⟨decoding, rest, exhausted, true⟩
  | ⟨_, rest, decoding, .invalid⟩ =>
    .answered (.error invalidCode) ⟨decoding, rest, exhausted, false⟩
  | ⟨output, rest, decoding, .going⟩ =>
    if !output.isEmpty then .answered (.ok output) ⟨decoding, rest, exhausted, false⟩
    else if rest.isEmpty then
      if exhausted then .answered (.error truncated) ⟨decoding, rest, exhausted, false⟩
      else .starved decoding
    else if _h : rest.length < input.length then attempt room exhausted decoding rest
    else .answered (.error stuck) ⟨decoding, rest, exhausted, false⟩
termination_by input.length

/-- Fill the empty buffer and call the decoder, within a given number of reads. -/
def readRounds (buffer room : Nat) : (reads : Nat) → Decoding →
    Pull (Except Fault Bytes × ReaderState)
  | 0, decoding => .done (.error (.bare .interrupted), { decoding })
  | reads + 1, decoding => .read buffer fun
    | .error fault => .done (.error fault, { decoding })
    | .ok input =>
      match attempt room input.isEmpty decoding input with
      | .answered answer state => .done (answer, state)
      | .starved decoding => readRounds buffer room reads decoding

/-- Answer a read that has room for something. -/
def ReaderState.serve (buffer room patience : Nat) (state : ReaderState) :
    Pull (Except Fault Bytes × ReaderState) :=
  if state.input.isEmpty && !state.exhausted then readRounds buffer room patience state.decoding
  else
    match attempt room state.exhausted state.decoding state.input with
    | .answered answer state => .done (answer, state)
    | .starved decoding => readRounds buffer room patience decoding

/-- The decoding layer with an input buffer of a given size. -/
def decoder (patience buffer : Nat) : Decoder where
  State := ReaderState
  read state room :=
    if room = 0 || state.done then .done (.ok [], state)
    else state.serve buffer room patience

end ContentCoding.Lzw
