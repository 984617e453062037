import ContentCoding.Json.Number
import ContentCoding.Json.String

/-!
# Passing over JSON values

The value of an unknown field is passed over without being built. The brackets
that are open are kept on a list, so nesting may be as deep as the text is long.
-/

namespace ContentCoding.Json

/-- A bracket that is open. -/
inductive Bracket
  | list
  | object
  deriving DecidableEq

/-- The error of a text that ends inside a bracket. -/
def Bracket.endError : Bracket → ReadError
  | .list => .endInList
  | .object => .endInObject

/-- The error of an element that is neither followed by a comma nor by the bracket's end. -/
def Bracket.commaError : Bracket → ReadError
  | .list => .expectedListCommaOrEnd
  | .object => .expectedObjectCommaOrEnd

/-- The character that ends a bracket. -/
def Bracket.closing : Bracket → Char
  | .list => ']'
  | .object => '\x7d'

/-- Pass over a key and its colon, where the bracket has keys. -/
def skipKey (bracket : Bracket) (text : List Char) : Except ReadError (List Char) :=
  match bracket with
  | .list => .ok text
  | .object =>
    match skipSpace text with
    | [] => .error .endInObject
    | '"' :: text =>
      match skipString text with
      | .error error => .error error
      | .ok text =>
        match skipSpace text with
        | [] => .error .endInObject
        | ':' :: text => .ok text
        | _ => .error .expectedColon
    | _ => .error .keyNotString

/-- What a value turned out to be. -/
inductive Skipped
  /-- It has been passed over. -/
  | scalar (rest : List Char)
  /-- It opens a bracket. -/
  | opened (bracket : Bracket) (rest : List Char)

/-- Pass over a value without parts, or over the bracket that a value opens with. -/
def skipHead (text : List Char) : Except ReadError Skipped :=
  let scalar (result : Except ReadError (List Char)) : Except ReadError Skipped :=
    match result with
    | .error error => .error error
    | .ok rest => .ok (.scalar rest)
  match skipSpace text with
  | [] => .error .endInValue
  | 'n' :: rest => scalar (readWord ['u', 'l', 'l'] rest)
  | 't' :: rest => scalar (readWord ['r', 'u', 'e'] rest)
  | 'f' :: rest => scalar (readWord ['a', 'l', 's', 'e'] rest)
  | '-' :: rest => scalar (skipNumber rest)
  | '"' :: rest => scalar (skipString rest)
  | '[' :: rest => .ok (.opened .list rest)
  | '\x7b' :: rest => .ok (.opened .object rest)
  | c :: rest => if isDigit c then scalar (skipNumber (c :: rest)) else .error .expectedValue

mutual

/-- Pass over a value inside the given brackets, innermost first, and over all that
follows it up to the end of the outermost. -/
def skipValueFor : (fuel : Nat) → List Bracket → List Char → Except ReadError (List Char)
  | 0, _, _ => .error .endInValue
  | fuel + 1, brackets, text =>
    match skipHead text with
    | .error error => .error error
    | .ok (.scalar rest) => skipAfterFor fuel true brackets rest
    | .ok (.opened bracket rest) => skipAfterFor fuel false (bracket :: brackets) rest

/-- Go on inside brackets, after an element or after the opening. -/
def skipAfterFor : (fuel : Nat) → (afterElement : Bool) → List Bracket → List Char →
    Except ReadError (List Char)
  | 0, _, _, _ => .error .endInValue
  | _ + 1, _, [], text => .ok text
  | fuel + 1, afterElement, bracket :: brackets, text =>
    match skipSpace text with
    | [] => .error bracket.endError
    | c :: rest =>
      if c = bracket.closing then skipAfterFor fuel true brackets rest
      else if afterElement ∧ c ≠ ',' then .error bracket.commaError
      else
        match skipKey bracket (if afterElement then rest else c :: rest) with
        | .error error => .error error
        | .ok text => skipValueFor fuel (bracket :: brackets) text

end

/-- Pass over a value. Each step but the last takes at least one character or is
followed by one that does, so twice the length of the text is fuel enough. -/
def skipValue (text : List Char) : Except ReadError (List Char) :=
  skipValueFor (2 * text.length + 2) [] text

end ContentCoding.Json
