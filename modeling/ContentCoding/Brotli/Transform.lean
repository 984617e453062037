import ContentCoding.Bytes

/-!
# Transforms of dictionary words

A word of the static dictionary stands for more strings than itself: a transform
changes the word and puts fixed text around it. Capitalising works on UTF-8 text
without knowing the alphabets. It flips one bit in letters of one or two bytes, and
two bits in the last byte of longer ones.
-/

namespace ContentCoding.Brotli

/-- A change of a word. -/
inductive WordChange
  /-- The word as it is. -/
  | keep
  /-- The word without its last bytes. -/
  | dropLast (count : Nat)
  /-- The word without its first bytes. -/
  | dropFirst (count : Nat)
  /-- The word with its first letter capitalised. -/
  | capitalizeFirst
  /-- The word with every letter capitalised. -/
  | capitalizeAll

/-- Capitalise letters from the front, as many as are asked for. -/
def capitalize : (letters : Nat) → Bytes → Bytes
  | 0, bytes => bytes
  | _, [] => []
  | letters + 1, first :: rest =>
    if first < 0xC0 then
      (if 97 ≤ first ∧ first ≤ 122 then first ^^^ 32 else first) :: capitalize letters rest
    else
      match rest with
      | [] => [first]
      | second :: rest =>
        if first < 0xE0 then first :: (second ^^^ 32) :: capitalize letters rest
        else
          match rest with
          | [] => [first, second]
          | third :: rest => first :: second :: (third ^^^ 5) :: capitalize letters rest

/-- Change a word. -/
def WordChange.apply (word : Bytes) : WordChange → Bytes
  | keep => word
  | dropLast count => word.take (word.length - count)
  | dropFirst count => word.drop count
  | capitalizeFirst => capitalize 1 word
  | capitalizeAll => capitalize word.length word

/-- A change of a word with text around it. -/
structure WordTransform where
  /-- The text before the word. -/
  before : String
  /-- What is done to the word. -/
  change : WordChange
  /-- The text after the word. -/
  after : String

/-- What a word becomes. -/
def WordTransform.apply (transform : WordTransform) (word : Bytes) : Bytes :=
  Bytes.ofText transform.before ++ transform.change.apply word ++ Bytes.ofText transform.after

/-- The transforms in the order of their numbers. -/
def wordTransforms : Array WordTransform :=
  List.toArray
    [⟨"", .keep, ""⟩, ⟨"", .keep, " "⟩, ⟨" ", .keep, " "⟩, ⟨"", .dropFirst 1, ""⟩,
      ⟨"", .capitalizeFirst, " "⟩, ⟨"", .keep, " the "⟩, ⟨" ", .keep, ""⟩, ⟨"s ", .keep, " "⟩,
      ⟨"", .keep, " of "⟩, ⟨"", .capitalizeFirst, ""⟩, ⟨"", .keep, " and "⟩,
      ⟨"", .dropFirst 2, ""⟩, ⟨"", .dropLast 1, ""⟩, ⟨", ", .keep, " "⟩, ⟨"", .keep, ", "⟩,
      ⟨" ", .capitalizeFirst, " "⟩, ⟨"", .keep, " in "⟩, ⟨"", .keep, " to "⟩, ⟨"e ", .keep, " "⟩,
      ⟨"", .keep, "\""⟩, ⟨"", .keep, "."⟩, ⟨"", .keep, "\">"⟩, ⟨"", .keep, "\n"⟩,
      ⟨"", .dropLast 3, ""⟩, ⟨"", .keep, "]"⟩, ⟨"", .keep, " for "⟩, ⟨"", .dropFirst 3, ""⟩,
      ⟨"", .dropLast 2, ""⟩, ⟨"", .keep, " a "⟩, ⟨"", .keep, " that "⟩,
      ⟨" ", .capitalizeFirst, ""⟩, ⟨"", .keep, ". "⟩, ⟨".", .keep, ""⟩, ⟨" ", .keep, ", "⟩,
      ⟨"", .dropFirst 4, ""⟩, ⟨"", .keep, " with "⟩, ⟨"", .keep, "'"⟩, ⟨"", .keep, " from "⟩,
      ⟨"", .keep, " by "⟩, ⟨"", .dropFirst 5, ""⟩, ⟨"", .dropFirst 6, ""⟩, ⟨" the ", .keep, ""⟩,
      ⟨"", .dropLast 4, ""⟩, ⟨"", .keep, ". The "⟩, ⟨"", .capitalizeAll, ""⟩, ⟨"", .keep, " on "⟩,
      ⟨"", .keep, " as "⟩, ⟨"", .keep, " is "⟩, ⟨"", .dropLast 7, ""⟩, ⟨"", .dropLast 1, "ing "⟩,
      ⟨"", .keep, "\n\t"⟩, ⟨"", .keep, ":"⟩, ⟨" ", .keep, ". "⟩, ⟨"", .keep, "ed "⟩,
      ⟨"", .dropFirst 9, ""⟩, ⟨"", .dropFirst 7, ""⟩, ⟨"", .dropLast 6, ""⟩, ⟨"", .keep, "("⟩,
      ⟨"", .capitalizeFirst, ", "⟩, ⟨"", .dropLast 8, ""⟩, ⟨"", .keep, " at "⟩, ⟨"", .keep, "ly "⟩,
      ⟨" the ", .keep, " of "⟩, ⟨"", .dropLast 5, ""⟩, ⟨"", .dropLast 9, ""⟩,
      ⟨" ", .capitalizeFirst, ", "⟩, ⟨"", .capitalizeFirst, "\""⟩, ⟨".", .keep, "("⟩,
      ⟨"", .capitalizeAll, " "⟩, ⟨"", .capitalizeFirst, "\">"⟩, ⟨"", .keep, "=\""⟩,
      ⟨" ", .keep, "."⟩, ⟨".com/", .keep, ""⟩, ⟨" the ", .keep, " of the "⟩,
      ⟨"", .capitalizeFirst, "'"⟩, ⟨"", .keep, ". This "⟩, ⟨"", .keep, ","⟩, ⟨".", .keep, " "⟩,
      ⟨"", .capitalizeFirst, "("⟩, ⟨"", .capitalizeFirst, "."⟩, ⟨"", .keep, " not "⟩,
      ⟨" ", .keep, "=\""⟩, ⟨"", .keep, "er "⟩, ⟨" ", .capitalizeAll, " "⟩, ⟨"", .keep, "al "⟩,
      ⟨" ", .capitalizeAll, ""⟩, ⟨"", .keep, "='"⟩, ⟨"", .capitalizeAll, "\""⟩,
      ⟨"", .capitalizeFirst, ". "⟩, ⟨" ", .keep, "("⟩, ⟨"", .keep, "ful "⟩,
      ⟨" ", .capitalizeFirst, ". "⟩, ⟨"", .keep, "ive "⟩, ⟨"", .keep, "less "⟩,
      ⟨"", .capitalizeAll, "'"⟩, ⟨"", .keep, "est "⟩, ⟨" ", .capitalizeFirst, "."⟩,
      ⟨"", .capitalizeAll, "\">"⟩, ⟨" ", .keep, "='"⟩, ⟨"", .capitalizeFirst, ","⟩,
      ⟨"", .keep, "ize "⟩, ⟨"", .capitalizeAll, "."⟩, ⟨"\u00a0", .keep, ""⟩, ⟨" ", .keep, ","⟩,
      ⟨"", .capitalizeFirst, "=\""⟩, ⟨"", .capitalizeAll, "=\""⟩, ⟨"", .keep, "ous "⟩,
      ⟨"", .capitalizeAll, ", "⟩, ⟨"", .capitalizeFirst, "='"⟩, ⟨" ", .capitalizeFirst, ","⟩,
      ⟨" ", .capitalizeAll, "=\""⟩, ⟨" ", .capitalizeAll, ", "⟩, ⟨"", .capitalizeAll, ","⟩,
      ⟨"", .capitalizeAll, "("⟩, ⟨"", .capitalizeAll, ". "⟩, ⟨" ", .capitalizeAll, "."⟩,
      ⟨"", .capitalizeAll, "='"⟩, ⟨" ", .capitalizeAll, ". "⟩, ⟨" ", .capitalizeFirst, "=\""⟩,
      ⟨" ", .capitalizeAll, "='"⟩, ⟨" ", .capitalizeFirst, "='"⟩]

end ContentCoding.Brotli
