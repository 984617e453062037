import ContentCoding.Text.Invisible

/-!
# Quoted text

A text between double quotes on one line. The two delimiters, the usual control
characters and every character without a printed form of its own are escaped,
so the quoted text can be read back and never breaks a line.
-/

namespace ContentCoding.Text.Quoted

/-- Lower-case hexadecimal digits of a number, without leading zeros. -/
def hexDigits (value : Nat) : List Char := Nat.toDigits 16 value

/-- How one character is written between the quotes. -/
def escape (c : Char) : List Char :=
  if c = '\x00' then ['\\', '0']
  else if c = '\t' then ['\\', 't']
  else if c = '\r' then ['\\', 'r']
  else if c = '\n' then ['\\', 'n']
  else if c = '"' then ['\\', '"']
  else if c = '\\' then ['\\', '\\']
  else if Invisible.isInvisible c then
    ['\\', 'u', '\x7b'] ++ hexDigits c.toNat ++ ['\x7d']
  else [c]

/-- A text as one quoted token. -/
def quote (text : String) : String :=
  String.ofList ('"' :: text.toList.flatMap escape ++ ['"'])

end ContentCoding.Text.Quoted
