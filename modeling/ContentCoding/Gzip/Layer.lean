import ContentCoding.Deflate.Layer
import ContentCoding.Gzip.Member

/-!
# Gzip layers

The encoding layer writes its header ahead of any data. The decoding layer reads
the first header when it is made, and keeps what goes wrong then for the first
read.
-/

namespace ContentCoding.Gzip

/-- The header for a compression level. It has no time stamp and no optional fields. -/
def opening (level : Nat) : Bytes :=
  [0x1F, 0x8B, 8, 0, 0, 0, 0, 0, if level = 9 then 2 else if level ≤ 1 then 4 else 0, 0xFF]

/-- The coding as its decoder sees it. -/
def coding : Transducer := format.transducer

/-- A member without its header, as its encoder sees it for a compression level. -/
def packer (level : Nat) : Packer := (Deflate.packer level).wrap [] trailerOf

/-- The rule for writing a member. The header goes out early, and an interrupted write of
it is made again. -/
def deferRule (patience level : Nat) : DeferRule :=
  { Deflate.deferRule patience with
    opening := opening level
    openingDelivery := ⟨.bare .writeZero, true⟩ }

/-- The encoding layer for a compression level. -/
def encoder (patience level : Nat) : Encoder :=
  (packer level).encoder (deferRule patience level)

/-- The encoding layer before its first call. -/
def fresh (patience level : Nat) : (encoder patience level).State :=
  .fresh (packer level) (deferRule patience level)

/-- Whether a header or a trailer is being read. -/
def betweenData (position : coding.State) : Bool :=
  match position.mode with
  | .header first => first || position.begun
  | .body _ => false
  | .trailer => true

/-- Whether a header has been read. -/
def afterHeader (position : coding.State) : Bool :=
  match position.mode with
  | .header _ => false
  | _ => true

/-- The rule for reading gzip streams. Output is handed out before a trailer is
looked at. -/
def readRule (patience : Nat) : ReadRule coding.State where
  bufferSize := Deflate.bufferSize
  patience
  lookahead := Deflate.windowSize
  boundary position := match position.mode with
    | .trailer => true
    | _ => false
  retries := betweenData
  prefetches
    | .running _ => true
    | _ => false
  emptyRead := .decodes
  pauses := afterHeader

/-- The decoding layer. -/
def decoder (patience : Nat) : Decoder := coding.decoder (readRule patience)

/-- Keep a fault for the first read, except one that asks to try later. -/
def keepFault (fault : Fault) (reader : Buffered coding.State) : Buffered coding.State :=
  if fault.kind = .wouldBlock then reader else { reader with progress := .failed ⟨fault, false⟩ }

/-- The factory of the decoding layer, which reads the first header. -/
def decoderFactory (patience : Nat) : DecoderFactory :=
  (coding.fresh.fill (readRule patience) afterHeader 1 patience).map fun
    | (.ok (), reader) => .built (decoder patience) reader
    | (.error fault, reader) => .built (decoder patience) (keepFault fault reader)

end ContentCoding.Gzip
