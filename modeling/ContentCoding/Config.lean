import ContentCoding.Fault
import ContentCoding.Json.Record

/-!
# Parameters of the built-in codings

A `CodecConfig` holds the parameters of a configured registry. They are checked
as a whole by `validate`, and one by one when a layer is made, by the same
checks, so a value out of range spoils only the layers that use it.
-/

namespace ContentCoding

/-- Parameters of the built-in codings. -/
structure CodecConfig where
  /-- Compression level of gzip, zlib and deflate. -/
  flateLevel : UInt32 := 6
  /-- Quality of br. -/
  brotliQuality : UInt32 := 6
  /-- Window bits of br. -/
  brotliWindow : UInt32 := 22
  /-- Compression level of zstd. Negative levels trade size for speed. -/
  zstdLevel : Int32 := 0
  /-- Internal buffer of br and compress layers, in bytes. -/
  bufferSize : UInt64 := 4096
  deriving DecidableEq, Repr, Inhabited

namespace CodecConfig

/-- The greatest level of gzip, zlib and deflate. -/
def maxFlateLevel : Nat := 9

/-- The greatest quality of br. -/
def maxBrotliQuality : Nat := 11

/-- The least window of br. -/
def minBrotliWindow : Nat := 10

/-- The greatest window of br. -/
def maxBrotliWindow : Nat := 24

/-- The least level of zstd. -/
def minZstdLevel : Int := -131072

/-- The greatest level of zstd. -/
def maxZstdLevel : Int := 22

/-- The least buffer. -/
def minBufferSize : Nat := 512

/-- The greatest buffer. -/
def maxBufferSize : Nat := 1048576

end CodecConfig

/-- The parameter of a coding that has levels. -/
inductive LevelOwner
  | flate
  | br
  | zstd
  deriving DecidableEq, Repr

/-- The name under which a level is reported. -/
def LevelOwner.name : LevelOwner → String
  | .flate => "flate"
  | .br => "br"
  | .zstd => "zstd"

/-- Why a configuration is refused. -/
inductive ConfigError
  /-- A level is out of range. -/
  | level (owner : LevelOwner) (level least greatest : Int)
  /-- The window of br is out of range. -/
  | window (bits least greatest : Nat)
  /-- The buffer is out of range. -/
  | buffer (size least greatest : Nat)
  /-- The text of a configuration cannot be read. -/
  | parse (error : Json.ReadError)

/-- The text of an error. -/
def ConfigError.message : ConfigError → String
  | .level owner value least greatest =>
    owner.name ++ " level " ++ toString value ++ " out of range " ++ toString least ++ "..=" ++
      toString greatest
  | .window bits least greatest =>
    "brotli window " ++ toString bits ++ " out of range " ++ toString least ++ "..=" ++
      toString greatest
  | .buffer size least greatest =>
    "buffer size " ++ toString size ++ " out of range " ++ toString least ++ "..=" ++
      toString greatest
  | .parse error => "config parse failed: " ++ error.message

/-- A refused configuration as a fault. -/
def ConfigError.toFault (error : ConfigError) : Fault := .described .invalidInput error.message

namespace CodecConfig

/-- Check the level of gzip, zlib and deflate. -/
def checkFlate (level : UInt32) : Except ConfigError Unit :=
  if level.toNat ≤ maxFlateLevel then .ok ()
  else .error (.level .flate level.toNat 0 maxFlateLevel)

/-- Check the quality and the window of br, in this order. -/
def checkBrotli (quality window : UInt32) : Except ConfigError Unit :=
  if maxBrotliQuality < quality.toNat then .error (.level .br quality.toNat 0 maxBrotliQuality)
  else if minBrotliWindow ≤ window.toNat ∧ window.toNat ≤ maxBrotliWindow then .ok ()
  else .error (.window window.toNat minBrotliWindow maxBrotliWindow)

/-- Check the level of zstd. -/
def checkZstd (level : Int32) : Except ConfigError Unit :=
  if minZstdLevel ≤ level.toInt ∧ level.toInt ≤ maxZstdLevel then .ok ()
  else .error (.level .zstd level.toInt minZstdLevel maxZstdLevel)

/-- Check the buffer of br and compress layers. -/
def checkBuffer (size : UInt64) : Except ConfigError Unit :=
  if minBufferSize ≤ size.toNat ∧ size.toNat ≤ maxBufferSize then .ok ()
  else .error (.buffer size.toNat minBufferSize maxBufferSize)

/-- Check every parameter. The first one out of range is reported. -/
def validate (config : CodecConfig) : Except ConfigError Unit :=
  match checkFlate config.flateLevel with
  | .error error => .error error
  | .ok () =>
    match checkBrotli config.brotliQuality config.brotliWindow with
    | .error error => .error error
    | .ok () =>
      match checkZstd config.zstdLevel with
      | .error error => .error error
      | .ok () => checkBuffer config.bufferSize

end CodecConfig

end ContentCoding
