import ContentCoding.Brotli.Layer
import ContentCoding.Config
import ContentCoding.Decode.Stack
import ContentCoding.Encode.Stack
import ContentCoding.Gzip.Layer
import ContentCoding.Lzw.Layer
import ContentCoding.Zlib.Layer
import ContentCoding.Zstd.Layer

/-!
# The built-in codings

The built-in registries stand for every coding under its header token. A factory
checks the parameters that its layer uses when the layer is made, so a parameter
out of range spoils only the layers that use it.
-/

namespace ContentCoding

/-- A built-in coding. -/
inductive Coding
  | blank
  | identity
  | gzip
  | zlib
  | br
  | deflate
  | compress
  | zstd
  deriving DecidableEq, Repr

namespace Coding

/-- The token that names a coding in a header. -/
def token : Coding → String
  | blank => ""
  | identity => "identity"
  | gzip => "gzip"
  | zlib => "zlib"
  | br => "br"
  | deflate => "deflate"
  | compress => "compress"
  | zstd => "zstd"

/-- Every built-in coding, in order of registration. -/
def all : List Coding := [blank, identity, gzip, zlib, br, deflate, compress, zstd]

/-- The layer that changes nothing. -/
def identityEncoder : Encoder where
  State := Unit
  write := Push.forwardWrite
  flush := Push.forwardFlush

/-- The layer that changes nothing. -/
def identityDecoder : Decoder where
  State := Unit
  read := Pull.forwardRead

/-- A factory that is asked only if a parameter is in range. -/
def ifInRange {α : Type 1} (check : Except ConfigError Unit) (refuse : Fault → α) (make : α) : α :=
  match check with
  | .ok () => make
  | .error error => refuse error.toFault

/-- The encoding layer of a coding with configured parameters. -/
def encoderFactory (patience : Nat) (config : CodecConfig) : Coding → EncoderFactory
  | gzip =>
    ifInRange (CodecConfig.checkFlate config.flateLevel) .refusing
      (.always (Gzip.encoder patience config.flateLevel.toNat)
        (Gzip.fresh patience config.flateLevel.toNat))
  | zlib =>
    ifInRange (CodecConfig.checkFlate config.flateLevel) .refusing
      (.always (Zlib.encoder patience config.flateLevel.toNat)
        (Zlib.fresh patience config.flateLevel.toNat))
  | deflate =>
    ifInRange (CodecConfig.checkFlate config.flateLevel) .refusing
      (.always (Deflate.encoder patience config.flateLevel.toNat)
        (Deflate.fresh patience config.flateLevel.toNat))
  | br =>
    ifInRange
      (do
        CodecConfig.checkBrotli config.brotliQuality config.brotliWindow
        CodecConfig.checkBuffer config.bufferSize)
      .refusing
      (.always (Brotli.encoder patience config.brotliWindow.toNat config.bufferSize.toNat)
        (Brotli.fresh patience config.brotliWindow.toNat config.bufferSize.toNat))
  | zstd =>
    ifInRange (CodecConfig.checkZstd config.zstdLevel) .refusing
      (.always (Zstd.encoder patience) (Zstd.fresh patience))
  | compress =>
    ifInRange (CodecConfig.checkBuffer config.bufferSize) .refusing
      (.always (Lzw.encoder patience config.bufferSize.toNat) {})
  | _ => .always identityEncoder ()

/-- The decoding layer of a coding with configured parameters. -/
def decoderFactory (patience : Nat) (config : CodecConfig) : Coding → DecoderFactory
  | gzip => Gzip.decoderFactory patience
  | zlib => .always (Zlib.decoder patience) Zlib.coding.fresh
  | deflate => .always (Deflate.decoder patience) Deflate.coding.fresh
  | br =>
    ifInRange (CodecConfig.checkBuffer config.bufferSize) .refusing
      (.always (Brotli.decoder patience config.bufferSize.toNat) Brotli.coding.fresh)
  | zstd => .always (Zstd.decoder patience) Zstd.coding.fresh
  | compress =>
    ifInRange (CodecConfig.checkBuffer config.bufferSize) .refusing
      (.always (Lzw.decoder patience config.bufferSize.toNat) {})
  | _ => .always identityDecoder ()

end Coding

/-- The built-in encoding layers with configured parameters. -/
def EncoderRegistry.ofConfig (patience : Nat) (config : CodecConfig) : EncoderRegistry :=
  .ofList (Coding.all.map fun coding => (coding.token, coding.encoderFactory patience config))

/-- The built-in decoding layers with configured parameters. Only the buffer matters. -/
def DecoderRegistry.ofConfig (patience : Nat) (config : CodecConfig) : DecoderRegistry :=
  .ofList (Coding.all.map fun coding => (coding.token, coding.decoderFactory patience config))

/-- The built-in encoding layers with default parameters. -/
def EncoderRegistry.builtin (patience : Nat) : EncoderRegistry := ofConfig patience {}

/-- The built-in decoding layers with default parameters. -/
def DecoderRegistry.builtin (patience : Nat) : DecoderRegistry := ofConfig patience {}

end ContentCoding
