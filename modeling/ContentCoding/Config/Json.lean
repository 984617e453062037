import ContentCoding.Config

/-!
# Configurations as JSON

Writing gives an object of all five fields in order, without white space.
Reading takes an object or a list; what is missing keeps its default, and
unknown fields are passed over.
-/

namespace ContentCoding.CodecConfig

open Json

/-- A field of 32-bit naturals. -/
def naturalField (name : String) (put : CodecConfig → UInt32 → CodecConfig) :
    RecordField CodecConfig where
  name
  read config text :=
    match readInteger 0 4294967295 "u32" text with
    | .error error => .error error
    | .ok (value, rest) => .ok (put config (UInt32.ofNat value.toNat), rest)

/-- The fields in order. -/
def fields : List (RecordField CodecConfig) :=
  [naturalField "flate_level" fun config value => { config with flateLevel := value },
    naturalField "brotli_quality" fun config value => { config with brotliQuality := value },
    naturalField "brotli_lgwin" fun config value => { config with brotliWindow := value },
    { name := "zstd_level"
      read := fun config text =>
        match readInteger (-2147483648) 2147483647 "i32" text with
        | .error error => .error error
        | .ok (value, rest) => .ok ({ config with zstdLevel := Int32.ofInt value }, rest) },
    { name := "buffer_size"
      read := fun config text =>
        match readInteger 0 18446744073709551615 "usize" text with
        | .error error => .error error
        | .ok (value, rest) => .ok ({ config with bufferSize := UInt64.ofNat value.toNat }, rest) }]

/-- Read a configuration. -/
def ofJson (text : String) : Except ConfigError CodecConfig :=
  match readRecord ⟨"struct CodecConfig", fun _ => none, fun _ => none⟩ fields {} text.toList with
  | .error error => .error (.parse error)
  | .ok config => .ok config

/-- Write a configuration. -/
def toJson (config : CodecConfig) : String :=
  "\x7b\"flate_level\":" ++ toString config.flateLevel.toNat ++
    ",\"brotli_quality\":" ++ toString config.brotliQuality.toNat ++
    ",\"brotli_lgwin\":" ++ toString config.brotliWindow.toNat ++
    ",\"zstd_level\":" ++ toString config.zstdLevel.toInt ++
    ",\"buffer_size\":" ++ toString config.bufferSize.toNat ++ "\x7d"

end ContentCoding.CodecConfig
