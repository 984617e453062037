import ContentCoding.Amount
import ContentCoding.Json.Error

/-!
# Numbers in JSON

An integer without fraction and exponent stays one if it fits 64 bits; all other
numbers, and a negative zero, are read as doubles. A double is computed from the
leading digits that fit 64 bits by one multiplication or division by a power of
ten, in steps of 10^308 beyond that, so it is not always the nearest one.

`skipNumber` checks the form alone and computes nothing.
-/

namespace ContentCoding.Json

/-- A number as it was read. -/
inductive Number
  /-- A natural number below 2^64. -/
  | natural (value : Nat)
  /-- A negative integer not below -2^63. -/
  | negative (value : Int)
  /-- A double. -/
  | float (value : Float)

/-- A number as a value that was found. -/
def Number.found : Number → Found
  | .natural value => .integer value
  | .negative value => .integer value
  | .float value => .float value

/-- The value of a decimal digit. -/
def digit? (c : Char) : Option Nat :=
  if '0' ≤ c ∧ c ≤ '9' then some (c.toNat - '0'.toNat) else none

/-- Whether a character is a decimal digit. -/
def isDigit (c : Char) : Bool := '0' ≤ c && c ≤ '9'

/-- The first number that does not fit 64 bits. -/
def wordLimit : Nat := twoTo 64

/-- Apply a decimal exponent to a double. -/
def applyExponent : (fuel : Nat) → Float → Int → Except ReadError Float
  | 0, value, _ => .ok value
  | fuel + 1, value, exponent =>
    if exponent.natAbs ≤ 308 then
      let power := Float.ofScientific 1 false exponent.natAbs
      if 0 ≤ exponent then
        let value := value * power
        if value.isInf then .error .numberOutOfRange else .ok value
      else .ok (value / power)
    else if value == 0 then .ok value
    else if 0 ≤ exponent then .error .numberOutOfRange
    else applyExponent fuel (value / 1e308) (exponent + 308)

/-- A double from its sign, leading digits and decimal exponent. -/
def floatOf (positive : Bool) (significand : Nat) (exponent : Int) : Except ReadError Float :=
  match applyExponent 40 (UInt64.ofNat significand).toFloat exponent with
  | .error error => .error error
  | .ok value => .ok (if positive then value else -value)

/-- The result of collecting digits. -/
structure DigitRun where
  /-- The digits as a number, as long as it fits 64 bits. -/
  significand : Nat
  /-- How many digits went into it. -/
  taken : Nat
  /-- The text after those digits. -/
  rest : List Char

/-- Collect digits onto a significand while it fits 64 bits. -/
def collectDigits (significand taken : Nat) : List Char → DigitRun
  | [] => ⟨significand, taken, []⟩
  | c :: rest =>
    match digit? c with
    | none => ⟨significand, taken, c :: rest⟩
    | some digit =>
      if wordLimit ≤ significand * 10 + digit then ⟨significand, taken, c :: rest⟩
      else collectDigits (significand * 10 + digit) (taken + 1) rest

/-- The greatest exponent that is read as such. -/
def exponentLimit : Nat := twoTo 31 - 1

/-- Read the rest of a number from the sign of its exponent. -/
def readExponent (positive : Bool) (significand : Nat) (scale : Int) (text : List Char) :
    Reading Float :=
  let (up, text) := match text with
    | '+' :: rest => (true, rest)
    | '-' :: rest => (false, rest)
    | text => (true, text)
  match text with
  | [] => .error .endInValue
  | c :: _ =>
    if isDigit c then
      let digits := text.takeWhile isDigit
      let rest := text.dropWhile isDigit
      let exponent := digits.foldl (fun n c => n * 10 + (c.toNat - '0'.toNat)) 0
      if exponentLimit < exponent then
        if significand ≠ 0 ∧ up then .error .numberOutOfRange
        else .ok (if positive then 0.0 else -0.0, rest)
      else
        match floatOf positive significand (if up then scale + exponent else scale - exponent) with
        | .error error => .error error
        | .ok value => .ok (value, rest)
    else .error .invalidNumber

/-- Read the rest of a number from where an exponent may stand. -/
def readScale (positive : Bool) (significand : Nat) (scale : Int) (text : List Char) :
    Reading Float :=
  match text with
  | 'e' :: rest => readExponent positive significand scale rest
  | 'E' :: rest => readExponent positive significand scale rest
  | text =>
    match floatOf positive significand scale with
    | .error error => .error error
    | .ok value => .ok (value, text)

/-- Read the rest of a number after the point. -/
def readFraction (positive : Bool) (significand : Nat) (scale : Int) (text : List Char) :
    Reading Float :=
  let run := collectDigits significand 0 text
  if (run.rest.head?.map isDigit).getD false then
    readScale positive run.significand (scale - run.taken) (run.rest.dropWhile isDigit)
  else if run.taken = 0 then
    .error (if text.isEmpty then .endInValue else .invalidNumber)
  else readScale positive run.significand (scale - run.taken) run.rest

/-- Read the rest of an integer whose digits no longer fit 64 bits. -/
def readLong (positive : Bool) (significand : Nat) (text : List Char) : Reading Float :=
  let more := text.takeWhile isDigit
  match text.dropWhile isDigit with
  | '.' :: rest => readFraction positive significand more.length rest
  | rest => readScale positive significand more.length rest

/-- An integer of one sign. -/
def integerOf (positive : Bool) (significand : Nat) : Number :=
  if positive then .natural significand
  else if significand = 0 ∨ twoTo 63 < significand then
    .float (-(UInt64.ofNat significand).toFloat)
  else .negative (-(significand : Int))

/-- Read the rest of a number after its integer digits. -/
def readTail (positive : Bool) (significand : Nat) (text : List Char) : Reading Number :=
  let asFloat (result : Reading Float) : Reading Number :=
    match result with
    | .error error => .error error
    | .ok (value, rest) => .ok (.float value, rest)
  match text with
  | '.' :: rest => asFloat (readFraction positive significand 0 rest)
  | 'e' :: rest => asFloat (readExponent positive significand 0 rest)
  | 'E' :: rest => asFloat (readExponent positive significand 0 rest)
  | text => .ok (integerOf positive significand, text)

/-- Read a number after its sign. -/
def readNumber (positive : Bool) : List Char → Reading Number
  | [] => .error .endInValue
  | '0' :: rest =>
    if (rest.head?.map isDigit).getD false then .error .invalidNumber
    else readTail positive 0 rest
  | c :: rest =>
    if isDigit c then
      let run := collectDigits 0 0 (c :: rest)
      if (run.rest.head?.map isDigit).getD false then
        match readLong positive run.significand run.rest with
        | .error error => .error error
        | .ok (value, rest) => .ok (.float value, rest)
      else readTail positive run.significand run.rest
    else .error .invalidNumber

/-- Pass over the rest of an exponent. -/
def skipExponent (text : List Char) : Except ReadError (List Char) :=
  let text := match text with
    | '+' :: rest => rest
    | '-' :: rest => rest
    | text => text
  match text with
  | [] => .error .invalidNumber
  | c :: rest => if isDigit c then .ok (rest.dropWhile isDigit) else .error .invalidNumber

/-- Pass over what may follow the integer digits of a number. -/
def skipTail (text : List Char) : Except ReadError (List Char) :=
  match text with
  | 'e' :: rest => skipExponent rest
  | 'E' :: rest => skipExponent rest
  | '.' :: c :: rest =>
    if isDigit c then
      match rest.dropWhile isDigit with
      | 'e' :: rest => skipExponent rest
      | 'E' :: rest => skipExponent rest
      | rest => .ok rest
    else .error .invalidNumber
  | ['.'] => .error .invalidNumber
  | text => .ok text

/-- Pass over a number after its sign. -/
def skipNumber : List Char → Except ReadError (List Char)
  | [] => .error .invalidNumber
  | '0' :: rest =>
    if (rest.head?.map isDigit).getD false then .error .invalidNumber else skipTail rest
  | c :: rest => if isDigit c then skipTail (rest.dropWhile isDigit) else .error .invalidNumber

end ContentCoding.Json
