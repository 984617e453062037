import ContentCoding.Json.Record
import ContentCoding.Telemetry.Counters

/-!
# Snapshots as JSON

Writing gives an object of the four fields in order, without white space.
Reading insists on all of them.
-/

namespace ContentCoding.Snapshot

open Json

/-- A field of 64-bit naturals. -/
def totalField (name expected : String) (put : Snapshot → UInt64 → Snapshot) :
    RecordField Snapshot where
  name
  read snapshot text :=
    match readInteger 0 18446744073709551615 expected text with
    | .error error => .error error
    | .ok (value, rest) => .ok (put snapshot (UInt64.ofNat value.toNat), rest)

/-- The fields in order. -/
def fields : List (RecordField Snapshot) :=
  [totalField "bytes_plaintext" "u64" fun snapshot value => { snapshot with plaintext := value },
    totalField "bytes_encoded" "u64" fun snapshot value => { snapshot with encoded := value },
    totalField "layers" "usize" fun snapshot value => { snapshot with layers := value },
    { name := "compression_ratio"
      read := fun snapshot text =>
        match readFloat "f64" text with
        | .error error => .error error
        | .ok (value, rest) => .ok ({ snapshot with ratio := value }, rest) }]

/-- The fields that a snapshot must have. -/
def demands : Demands where
  expected := "struct PipelineSnapshot"
  ofObject given :=
    (fields.find? fun field => !given.contains field.name).map fun field =>
      .missingField field.name
  ofList given :=
    if given.length < fields.length then
      some (.wrongLength given.length "struct PipelineSnapshot with 4 elements")
    else none

/-- Read a snapshot. -/
def ofJson (text : String) : Except ReadError Snapshot :=
  readRecord demands fields ⟨0, 0, 0, 0⟩ text.toList

/-- Write a snapshot. -/
def toJson (snapshot : Snapshot) : String :=
  "\x7b\"bytes_plaintext\":" ++ toString snapshot.plaintext.toNat ++
    ",\"bytes_encoded\":" ++ toString snapshot.encoded.toNat ++
    ",\"layers\":" ++ toString snapshot.layers.toNat ++
    ",\"compression_ratio\":" ++ Decimal.Shortest.format fraction snapshot.ratio ++ "\x7d"

end ContentCoding.Snapshot
