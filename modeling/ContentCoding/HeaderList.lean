import ContentCoding.Text.Blank

/-!
# Coding lists in header values

A header value lists codings in the order in which they were applied, separated
by commas. Reading keeps an empty segment as a blank entry, which pipelines
pass over; writing leaves blank entries out. Case is kept, since names are
case-sensitive.
-/

namespace ContentCoding.HeaderList

open Text

/-- Cut a text at every comma. There is always one more piece than there are commas. -/
def segments : List Char → List (List Char)
  | [] => [[]]
  | c :: rest =>
    match segments rest with
    | [] => [[c]]
    | first :: others => if c = ',' then [] :: first :: others else (c :: first) :: others

/-- The codings that a header value lists. A value of white space alone lists none. -/
def parse (header : String) : List String :=
  if header.toList.all isBlank then []
  else (segments header.toList).map fun segment => String.ofList (trim segment)

/-- The header value that lists codings, without the blank ones. -/
def format (codings : List String) : String :=
  ", ".intercalate ((codings.map fun name => String.ofList (trim name.toList)).filter (· != ""))

end ContentCoding.HeaderList
