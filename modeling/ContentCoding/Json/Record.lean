import ContentCoding.Json.Skip

/-!
# Reading records from JSON

A record is read from an object, in any order of its fields and among unknown
ones, or from a list, in the order of its fields. Reading fills in a value that
starts as the record of defaults, and tells which fields were given, so that a
record without defaults can insist on all of them.
-/

namespace ContentCoding.Json

/-- One field of a record: its name, and the reader that puts its value into the record. -/
structure RecordField (R : Type) where
  /-- The key under which the field stands. -/
  name : String
  /-- Read a value and put it in its place. -/
  read : R → List Char → Reading R

/-- The error of a value that its place cannot hold, or of what stands there instead
of a value. -/
def mismatch (expected : String) (text : List Char) : ReadError :=
  let word (result : Except ReadError (List Char)) (found : Found) : ReadError :=
    match result with
    | .error error => error
    | .ok _ => .wrongType found expected
  let number (result : Reading Number) : ReadError :=
    match result with
    | .error error => error
    | .ok (number, _) => .wrongType number.found expected
  match text with
  | [] => .endInValue
  | 'n' :: rest => word (readWord ['u', 'l', 'l'] rest) .null
  | 't' :: rest => word (readWord ['r', 'u', 'e'] rest) (.boolean true)
  | 'f' :: rest => word (readWord ['a', 'l', 's', 'e'] rest) (.boolean false)
  | '-' :: rest => number (readNumber false rest)
  | '"' :: rest =>
    match readString rest with
    | .error error => error
    | .ok (string, _) => .wrongType (.string string) expected
  | '[' :: _ => .wrongType .sequence expected
  | '\x7b' :: _ => .wrongType .map expected
  | c :: rest => if isDigit c then number (readNumber true (c :: rest)) else .expectedValue

/-- Read a number where one is expected. -/
def readNumberFor (expected : String) (text : List Char) : Reading Number :=
  match skipSpace text with
  | [] => .error .endInValue
  | '-' :: rest => readNumber false rest
  | c :: rest =>
    if isDigit c then readNumber true (c :: rest) else .error (mismatch expected (c :: rest))

/-- Read an integer between two bounds. -/
def readInteger (least greatest : Int) (expected : String) (text : List Char) : Reading Int :=
  match readNumberFor expected text with
  | .error error => .error error
  | .ok (.float value, _) => .error (.wrongType (.float value) expected)
  | .ok (.natural value, rest) =>
    if least ≤ value ∧ (value : Int) ≤ greatest then .ok (value, rest)
    else .error (.wrongValue (.integer value) expected)
  | .ok (.negative value, rest) =>
    if least ≤ value ∧ value ≤ greatest then .ok (value, rest)
    else .error (.wrongValue (.integer value) expected)

/-- Read a double. -/
def readFloat (expected : String) (text : List Char) : Reading Float :=
  match readNumberFor expected text with
  | .error error => .error error
  | .ok (.float value, rest) => .ok (value, rest)
  | .ok (.natural value, rest) => .ok ((UInt64.ofNat value).toFloat, rest)
  | .ok (.negative value, rest) => .ok (-(UInt64.ofNat value.natAbs).toFloat, rest)

/-- A record that has been read, with the names of the fields that were given. -/
structure Filled (R : Type) where
  /-- The record. -/
  record : R
  /-- The fields that were given. -/
  given : List String

/-- Read the value that belongs to a key. -/
def readEntry {R : Type} (fields : List (RecordField R)) (key : String) (filled : Filled R)
    (text : List Char) : Reading (Filled R) :=
  let value (text : List Char) : Except ReadError (List Char) :=
    match skipSpace text with
    | [] => .error .endInObject
    | ':' :: text => .ok text
    | _ => .error .expectedColon
  match fields.find? (·.name == key) with
  | none =>
    match value text with
    | .error error => .error error
    | .ok text =>
      match skipValue text with
      | .error error => .error error
      | .ok rest => .ok (filled, rest)
  | some field =>
    if filled.given.contains key then .error (.duplicateField key)
    else
      match value text with
      | .error error => .error error
      | .ok text =>
        match field.read filled.record text with
        | .error error => .error error
        | .ok (record, rest) => .ok (⟨record, key :: filled.given⟩, rest)

/-- Read the entries of an object up to its end. -/
def readEntriesFor {R : Type} (fields : List (RecordField R)) : (fuel : Nat) → (isFirst : Bool) →
    Filled R → List Char → Reading (Filled R)
  | 0, _, _, _ => .error .endInObject
  | fuel + 1, isFirst, filled, text =>
    let entry (text : List Char) : Reading (Filled R) :=
      match readString text with
      | .error error => .error error
      | .ok (key, text) =>
        match readEntry fields key filled text with
        | .error error => .error error
        | .ok (filled, text) => readEntriesFor fields fuel false filled text
    match skipSpace text with
    | [] => .error .endInObject
    | '\x7d' :: rest => .ok (filled, rest)
    | ',' :: rest =>
      if isFirst then .error .keyNotString
      else
        match skipSpace rest with
        | [] => .error .endInValue
        | '"' :: rest => entry rest
        | '\x7d' :: _ => .error .trailingComma
        | _ => .error .keyNotString
    | '"' :: rest => if isFirst then entry rest else .error .expectedObjectCommaOrEnd
    | _ => .error (if isFirst then .keyNotString else .expectedObjectCommaOrEnd)

/-- Read the elements of a list into the fields in order. The list may end early; the
names of the fields then tell how far it went. -/
def readElements {R : Type} : List (RecordField R) → (isFirst : Bool) → Filled R → List Char →
    Reading (Filled R)
  | [], _, filled, text => .ok (filled, text)
  | field :: fields, isFirst, filled, text =>
    let element (text : List Char) : Reading (Filled R) :=
      match field.read filled.record text with
      | .error error => .error error
      | .ok (record, text) => readElements fields false ⟨record, field.name :: filled.given⟩ text
    match skipSpace text with
    | [] => .error .endInList
    | ']' :: rest => .ok (filled, ']' :: rest)
    | c :: rest =>
      if isFirst then element (c :: rest)
      else if c = ',' then
        match skipSpace rest with
        | [] => .error .endInValue
        | ']' :: _ => .error .trailingComma
        | rest => element rest
      else .error .expectedListCommaOrEnd

/-- Take the end of a list whose elements have all been read. -/
def readListEnd (text : List Char) : Except ReadError (List Char) :=
  match skipSpace text with
  | [] => .error .endInList
  | ']' :: rest => .ok rest
  | ',' :: rest =>
    match skipSpace rest with
    | ']' :: _ => .error .trailingComma
    | _ => .error .trailingCharacters
  | _ => .error .trailingCharacters

/-- What a record demands of the fields that were given. -/
structure Demands where
  /-- The wording of the record where something else is found. -/
  expected : String
  /-- The error of an object that gives only these fields. -/
  ofObject : List String → Option ReadError
  /-- The error of a list that gives only these fields. -/
  ofList : List String → Option ReadError

/-- Read a record from a whole text. -/
def readRecord {R : Type} (demands : Demands) (fields : List (RecordField R)) (default : R)
    (text : List Char) : Except ReadError R :=
  let finish (error : Option ReadError) (record : R) (rest : List Char) : Except ReadError R :=
    match error with
    | some error => .error error
    | none => if (skipSpace rest).isEmpty then .ok record else .error .trailingCharacters
  match skipSpace text with
  | [] => .error .endInValue
  | '\x7b' :: rest =>
    match readEntriesFor fields (rest.length + 1) true ⟨default, []⟩ rest with
    | .error error => .error error
    | .ok (filled, rest) => finish (demands.ofObject filled.given) filled.record rest
  | '[' :: rest =>
    match readElements fields true ⟨default, []⟩ rest with
    | .error error => .error error
    | .ok (filled, rest) =>
      match demands.ofList filled.given with
      | some error => .error error
      | none =>
        match readListEnd rest with
        | .error error => .error error
        | .ok rest => finish none filled.record rest
  | c :: rest => .error (mismatch demands.expected (c :: rest))

end ContentCoding.Json
