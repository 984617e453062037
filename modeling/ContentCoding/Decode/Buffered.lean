import ContentCoding.Decode.Layer
import ContentCoding.Decode.Transducer

/-!
# Buffered decoding layers

A buffered reader puts a transducer on top of the reader below. It asks below
for a buffer's worth of encoded bytes and feeds them until as much output is
waiting as the caller has room for, or until the buffer is used up. It goes on
to the next bufferful only while there is no output at all. When the stream
turns out to be invalid, output that was still waiting is dropped, so how much
of it a caller sees before the failure depends on how far decoding runs ahead.

`ReadRule` holds the decisions in which codings differ. A read that meets
nothing but interruptions and bytes without output gives up as interrupted
after `patience` reads below, and can be repeated without loss.
-/

namespace ContentCoding

/-- How far a buffered reader has come with its stream. -/
inductive Progress (S : Type) : Type
  /-- The stream goes on. -/
  | running (state : S)
  /-- The stream has ended. -/
  | finished
  /-- Decoding has failed. -/
  | failed (failure : Failure)

/-- What a read without room does. -/
inductive EmptyRead
  /-- It returns at once. -/
  | ignored
  /-- It fills an empty buffer, and decodes what is buffered. -/
  | probes
  /-- It decodes until output is waiting, the stream has ended or decoding may pause. -/
  | decodes
  deriving DecidableEq, Repr

/-- The decisions in which buffered readers differ. -/
structure ReadRule (S : Type) where
  /-- How many bytes are asked for at a time. -/
  bufferSize : Nat
  /-- How many reads below one call may make. -/
  patience : Nat
  /-- How much output decoding runs ahead for, if the caller has less room. -/
  lookahead : Nat := 1
  /-- In which states output that is waiting is handed out before decoding goes on. -/
  boundary : S → Bool := fun _ => false
  /-- In which states an interrupted read below is made again rather than reported. -/
  retries : S → Bool := fun _ => false
  /-- When a read fills an empty buffer although it could be answered without. -/
  prefetches : Progress S → Bool := fun _ => false
  /-- What a read without room does. -/
  emptyRead : EmptyRead := .ignored
  /-- In which states a read without room stops decoding. -/
  pauses : S → Bool := fun _ => false
  /-- Whether the layer can be finalized, after which it is at its end. -/
  releases : Bool := false

/-- The state of a buffered reader. -/
structure Buffered (S : Type) where
  /-- How far the stream has been decoded. -/
  progress : Progress S
  /-- Encoded bytes that have been read but not decoded. -/
  encoded : Bytes := []
  /-- Decoded bytes that have not been handed out. -/
  output : Bytes := []
  /-- Whether the reader below has ended. -/
  exhausted : Bool := false

namespace Buffered

variable {coding : Transducer}

/-- Feed encoded bytes until so much output is there, a state is reached in which
to stop, decoding ends, or no bytes are left. The output is passed along reversed. -/
def absorb (stops : coding.State → (waiting : Bool) → Bool) (exhausted : Bool) :
    (wanted : Nat) → coding.State → Bytes → (output : Bytes) → Buffered coding.State
  | _, state, [], output => ⟨.running state, [], output.reverse, exhausted⟩
  | wanted, state, byte :: rest, output =>
    match coding.feed state byte with
    | .running more state =>
      let output := more.reverseAux output
      let wanted := wanted - more.length
      if wanted = 0 || stops state (!output.isEmpty) then
        ⟨.running state, rest, output.reverse, exhausted⟩
      else absorb stops exhausted wanted state rest output
    | .finished more => ⟨.finished, rest, (more.reverseAux output).reverse, exhausted⟩
    | .failed failure => ⟨.failed failure, rest, [], exhausted⟩

/-- Settle a reader that has used up all the input there is. -/
def conclude : Buffered coding.State → Buffered coding.State
  | ⟨.running state, [], [], true⟩ =>
    match coding.ending state with
    | .ok () => ⟨.finished, [], [], true⟩
    | .error failure => ⟨.failed failure, [], [], true⟩
  | reader => reader

/-- Decode as far as possible without reading below, unless output is waiting. -/
def advance (rule : ReadRule coding.State) (pause : coding.State → Bool) (wanted : Nat) :
    Buffered coding.State → Buffered coding.State
  | ⟨.running state, encoded, [], exhausted⟩ =>
    if pause state then ⟨.running state, encoded, [], exhausted⟩
    else
      (absorb (fun state waiting => pause state || waiting && rule.boundary state) exhausted
        (max wanted rule.lookahead) state encoded []).conclude
  | reader => reader

/-- Whether a read can be answered, or a pause has been reached. -/
def isReady (pause : coding.State → Bool) (reader : Buffered coding.State) : Bool :=
  match reader.progress, reader.output with
  | .running state, [] => pause state
  | _, _ => true

/-- Take what the reader below answered. -/
def receive (reader : Buffered coding.State) : Bytes → Buffered coding.State
  | [] => { reader with exhausted := true }
  | bytes => { reader with encoded := bytes }

/-- Whether an interrupted read below is made again. -/
def triesAgain (rule : ReadRule coding.State) (reader : Buffered coding.State)
    (fault : Fault) : Bool :=
  match reader.progress with
  | .running state => fault.isInterruption && rule.retries state
  | _ => false

/-- Decode, reading below until a read can be answered or a pause is reached,
within a given number of reads below. -/
def fill (rule : ReadRule coding.State) (pause : coding.State → Bool) (wanted : Nat) :
    (reads : Nat) → Buffered coding.State → Pull (Except Fault Unit × Buffered coding.State)
  | reads, reader =>
    let reader := reader.advance rule pause wanted
    if reader.isReady pause then .done (.ok (), reader)
    else
      match reads with
      | 0 => .done (.error (.bare .interrupted), reader)
      | reads + 1 => .read rule.bufferSize fun
        | .ok bytes => fill rule pause wanted reads (reader.receive bytes)
        | .error fault =>
          if reader.triesAgain rule fault then fill rule pause wanted reads reader
          else .done (.error fault, reader)

/-- Answer a read from what has been decoded. -/
def answer (room : Nat) : Buffered coding.State → Except Fault Bytes × Buffered coding.State
  | ⟨.failed failure, encoded, [], exhausted⟩ =>
    (.error failure.fault,
      ⟨if failure.lasting then .failed failure else .finished, encoded, [], exhausted⟩)
  | ⟨progress, encoded, output, exhausted⟩ =>
    (.ok (output.take room), ⟨progress, encoded, output.drop room, exhausted⟩)

/-- Decode until a read can be answered or a pause is reached, and answer it. -/
def serve (rule : ReadRule coding.State) (pause : coding.State → Bool) (room : Nat)
    (reader : Buffered coding.State) : Pull (Except Fault Bytes × Buffered coding.State) :=
  (fill rule pause room rule.patience reader).map fun
    | (.ok (), reader) => reader.answer room
    | (.error fault, reader) => (.error fault, reader)

/-- Fill the buffer if it is empty and the reader below has not ended, and go on. -/
def refill (rule : ReadRule coding.State) (reader : Buffered coding.State)
    (next : Buffered coding.State → Pull (Except Fault Bytes × Buffered coding.State)) :
    Pull (Except Fault Bytes × Buffered coding.State) :=
  if reader.encoded.isEmpty && !reader.exhausted then
    .read rule.bufferSize fun
      | .ok bytes => next (reader.receive bytes)
      | .error fault => .done (.error fault, reader)
  else next reader

/-- Decode what is buffered, and report a failure if there is one. -/
def probe (rule : ReadRule coding.State) :
    Buffered coding.State → Pull (Except Fault Bytes × Buffered coding.State)
  | ⟨.running state, encoded, [], exhausted⟩ =>
    .done ((absorb (fun _ _ => false) exhausted rule.lookahead state encoded []).answer 0)
  | reader => .done (reader.answer 0)

/-- Whether a read fills an empty buffer although it can be answered without. -/
def looksAhead (rule : ReadRule coding.State) (reader : Buffered coding.State) : Bool :=
  rule.prefetches reader.progress && reader.isReady fun _ => false

/-- Give at most so many decoded bytes. -/
def read (rule : ReadRule coding.State) (reader : Buffered coding.State) (room : Nat) :
    Pull (Except Fault Bytes × Buffered coding.State) :=
  if room = 0 then
    match rule.emptyRead with
    | .ignored => .done (.ok [], reader)
    | .probes => reader.refill rule (probe rule)
    | .decodes => reader.serve rule rule.pauses 0
  else if reader.looksAhead rule then reader.refill rule (serve rule (fun _ => false) room)
  else reader.serve rule (fun _ => false) room

end Buffered

namespace Transducer

/-- A reader that has not read anything. -/
def fresh (coding : Transducer) : Buffered coding.State := { progress := .running coding.start }

/-- The layer that decodes one coding. -/
def decoder (coding : Transducer) (rule : ReadRule coding.State) : Decoder where
  State := Buffered coding.State
  read := Buffered.read rule
  finalizes _ := rule.releases
  finalize reader :=
    .done (.ok (), if rule.releases then { progress := .finished } else reader)

end Transducer

end ContentCoding
