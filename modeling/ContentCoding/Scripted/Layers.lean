import ContentCoding.Decode.Layer
import ContentCoding.Encode.Layer

/-!
# Layers that follow a script

Small layers of a caller's own, for trying pipelines out: layers that mark what
passes through them, that fail one kind of call, that hide what lies below, or
that write when they are destroyed. Most of them leave a line in the journal
when they are made and when they are finalized.
-/

namespace ContentCoding.Scripted

/-- The line left when a layer is made. -/
def buildLine (tag : String) : String := "build:" ++ tag

/-- The line left when a layer is finalized. -/
def finalizeLine (tag : String) : String := "finalize:" ++ tag

/-- The line left when a layer is destroyed, with how its last write and flush went. -/
def teardownLine (tag : String) (wrote flushed : Bool) : String :=
  "teardown:" ++ tag ++ ":" ++ toString wrote ++ ":" ++ toString flushed

/-- Whether a call went well. -/
def succeeded {α : Type} : Except Fault α → Bool
  | .ok _ => true
  | .error _ => false

/-- The byte-wise exclusive or with a key. -/
def mask (key : UInt8) (bytes : Bytes) : Bytes := bytes.map (· ^^^ key)

/-- A layer without state that forwards every call and has nothing to finalize. -/
def forwarding : Encoder where
  State := Unit
  write := Push.forwardWrite
  flush := Push.forwardFlush

/-- A forwarding layer whose finalizing is noted and then done by an exchange. -/
def finalizing (tag : String) (act : Push (Except Fault Unit)) : Encoder :=
  { forwarding with
    finalizes := fun _ => true
    finalize := fun state =>
      .remark (finalizeLine tag) (act.map fun answer => (answer, state)) }

/-- A forwarding layer whose finalizing is only noted. -/
def recording (tag : String) : Encoder := finalizing tag (.done (.ok ()))

/-- A forwarding layer that writes its tag when it is finalized. -/
def tagging (patience : Nat) (tag : String) : Encoder :=
  finalizing tag (Push.writeAll patience (.ofText tag))

/-- A tagging layer that hides the layer below. -/
def sealed (patience : Nat) (tag : String) : Encoder :=
  { tagging patience tag with exposes := fun _ => false }

/-- A layer that fails to be finalized. -/
def failingFinalize (tag : String) (fault : Fault) : Encoder :=
  finalizing tag (.done (.error fault))

/-- A layer that fails every write. -/
def failingWrite (fault : Fault) : Encoder :=
  { forwarding with write := fun state _ => .done (.error fault, state) }

/-- A layer that fails every flush. -/
def failingFlush (fault : Fault) : Encoder :=
  { forwarding with flush := fun state => .done (.error fault, state) }

/-- A layer that masks what is written. -/
def masking (key : UInt8) : Encoder :=
  { forwarding with write := fun state bytes => Push.forwardWrite state (mask key bytes) }

/-- A layer that puts marks around each write, at each flush and at the end. -/
def framing (patience : Nat) (tag : String) : Encoder where
  State := Unit
  write state bytes :=
    (Push.writeAll patience (.ofText ("<" ++ tag ++ ":") ++ bytes ++ .ofText ">")).map fun
      | .ok () => (.ok bytes.length, state)
      | .error fault => (.error fault, state)
  flush state :=
    (Push.writeAll patience (.ofText ("[" ++ tag ++ "]"))).bind fun
      | .ok () => Push.forwardFlush state
      | .error fault => .done (.error fault, state)
  finalizes _ := true
  finalize state :=
    .remark (finalizeLine tag)
      ((Push.writeAll patience (.ofText ("\x7b" ++ tag ++ "\x7d"))).map fun answer =>
        (answer, state))

/-- A forwarding layer that writes its tag and flushes when it is destroyed. -/
def lingering (patience : Nat) (tag : String) : Encoder :=
  { forwarding with
    teardown := fun _ =>
      (Push.writeAll patience (.ofText tag)).bind fun wrote =>
        .flush fun flushed =>
          .remark (teardownLine tag (succeeded wrote) (succeeded flushed)) (.done ()) }

/-- The factory that notes each layer it makes. -/
def noted (tag : String) (encoder : Encoder) (state : encoder.State) : EncoderFactory :=
  .remark (buildLine tag) (.done (.built encoder state))

/-- The factory that breaks off. -/
def crashing : EncoderFactory := .done .crashed

/-- A layer without state that forwards every read and has nothing to finalize. -/
def forwardingReader : Decoder where
  State := Unit
  read := Pull.forwardRead

/-- A forwarding layer whose finalizing is noted and ends in an answer. -/
def finalizingReader (tag : String) (answer : Except Fault Unit) : Decoder :=
  { forwardingReader with
    finalizes := fun _ => true
    finalize := fun state => .remark (finalizeLine tag) (.done (answer, state)) }

/-- A finalizing layer that hides the layer below. -/
def sealedReader (tag : String) : Decoder :=
  { finalizingReader tag (.ok ()) with exposes := fun _ => false }

/-- A layer that fails every read. -/
def failingReader (fault : Fault) : Decoder :=
  { forwardingReader with read := fun state _ => .done (.error fault, state) }

/-- A layer that masks what is read. -/
def maskingReader (key : UInt8) : Decoder :=
  { forwardingReader with
    read := fun state room =>
      .read room fun answer => .done (answer.map (mask key), state) }

/-- The factory that notes each layer it makes. -/
def notedReader (tag : String) (decoder : Decoder) (state : decoder.State) : DecoderFactory :=
  .remark (buildLine tag) (.done (.built decoder state))

/-- The factory that breaks off. -/
def crashingReader : DecoderFactory := .done .crashed

end ContentCoding.Scripted
