import ContentCoding.Amount
import ContentCoding.Json.Error

/-!
# Strings in JSON

`readString` reads the rest of a string after its opening quote and gives the
text it stands for. `skipString` only finds its end: it checks the form of every
escape, but not whether surrogate escapes come in pairs.
-/

namespace ContentCoding.Json

/-- The value of a hexadecimal digit. -/
def hexValue? (c : Char) : Option Nat :=
  if '0' ≤ c ∧ c ≤ '9' then some (c.toNat - '0'.toNat)
  else if 'a' ≤ c ∧ c ≤ 'f' then some (c.toNat - 'a'.toNat + 10)
  else if 'A' ≤ c ∧ c ≤ 'F' then some (c.toNat - 'A'.toNat + 10)
  else none

/-- How many bytes a text takes up. -/
def utf8Length (text : List Char) : Nat := sumOf (text.map Char.utf8Size)

/-- Take the four digits of a hexadecimal escape. The text must have four more bytes
before it is looked at. -/
def readHex : List Char → Reading Nat
  | a :: b :: c :: d :: rest =>
    match hexValue? a, hexValue? b, hexValue? c, hexValue? d with
    | some a, some b, some c, some d => .ok (((a * 16 + b) * 16 + c) * 16 + d, rest)
    | _, _, _, _ => .error .invalidEscape
  | text => .error (if 4 ≤ utf8Length text then .invalidEscape else .endInString)

/-- The character that a simple escape stands for. -/
def simpleEscape? (c : Char) : Option Char :=
  match c with
  | '"' => some '"'
  | '\\' => some '\\'
  | '/' => some '/'
  | 'b' => some '\x08'
  | 'f' => some '\x0c'
  | 'n' => some '\n'
  | 'r' => some '\r'
  | 't' => some '\t'
  | _ => none

/-- Take the second half of a pair of surrogate escapes. -/
def readTrailing (leading : Nat) : List Char → Reading Nat
  | [] => .error .endInString
  | ['\\'] => .error .endInString
  | '\\' :: 'u' :: text =>
    match readHex text with
    | .error error => .error error
    | .ok (trailing, rest) =>
      if 0xDC00 ≤ trailing ∧ trailing ≤ 0xDFFF then
        .ok (0x10000 + (leading - 0xD800) * 0x400 + (trailing - 0xDC00), rest)
      else .error .loneSurrogate
  | _ => .error .unfinishedSurrogatePair

/-- Take the code point of a hexadecimal escape. -/
def readCodePoint (text : List Char) : Reading Nat :=
  match readHex text with
  | .error error => .error error
  | .ok (unit, rest) =>
    if 0xDC00 ≤ unit ∧ unit ≤ 0xDFFF then .error .loneSurrogate
    else if 0xD800 ≤ unit ∧ unit ≤ 0xDBFF then readTrailing unit rest
    else .ok (unit, rest)

/-- Read the rest of a string. The characters read so far are passed along reversed.
Each step takes at least one character, so the length of the text is fuel enough. -/
def readStringFor : (fuel : Nat) → List Char → List Char → Reading String
  | 0, _, _ => .error .endInString
  | _ + 1, [], _ => .error .endInString
  | _ + 1, '"' :: rest, done => .ok (String.ofList done.reverse, rest)
  | _ + 1, ['\\'], _ => .error .endInString
  | fuel + 1, '\\' :: 'u' :: text, done =>
    match readCodePoint text with
    | .error error => .error error
    | .ok (code, rest) => readStringFor fuel rest (Char.ofNat code :: done)
  | fuel + 1, '\\' :: c :: rest, done =>
    match simpleEscape? c with
    | some c => readStringFor fuel rest (c :: done)
    | none => .error .invalidEscape
  | fuel + 1, c :: rest, done =>
    if c.toNat < 0x20 then .error .controlCharacter else readStringFor fuel rest (c :: done)

/-- Read the rest of a string after its opening quote. -/
def readString (text : List Char) : Reading String :=
  readStringFor (text.length + 1) text []

/-- Find the end of a string. -/
def skipStringFor : (fuel : Nat) → List Char → Except ReadError (List Char)
  | 0, _ => .error .endInString
  | _ + 1, [] => .error .endInString
  | _ + 1, '"' :: rest => .ok rest
  | _ + 1, ['\\'] => .error .endInString
  | fuel + 1, '\\' :: 'u' :: text =>
    match readHex text with
    | .error error => .error error
    | .ok (_, rest) => skipStringFor fuel rest
  | fuel + 1, '\\' :: c :: rest =>
    match simpleEscape? c with
    | some _ => skipStringFor fuel rest
    | none => .error .invalidEscape
  | fuel + 1, c :: rest =>
    if c.toNat < 0x20 then .error .controlCharacter else skipStringFor fuel rest

/-- Pass over the rest of a string after its opening quote. -/
def skipString (text : List Char) : Except ReadError (List Char) :=
  skipStringFor (text.length + 1) text

end ContentCoding.Json
