/-!
# Contexts

The code for the next literal depends on the two bytes before it, and the code for
a distance on the length of the copy. A context is the class of what is known, and
a block chooses one of four ways to classify bytes.
-/

namespace ContentCoding.Brotli

/-- A table given as runs of equal values. -/
def ofRuns (runs : List (Nat × UInt8)) : Array UInt8 :=
  (runs.flatMap fun (count, value) => List.replicate count value).toArray

/-- Classes of the last byte of UTF-8 text. Vowels, consonants, digits, kinds of
punctuation and kinds of space are told apart, and beyond ASCII bytes that go on
from bytes that start a letter. -/
def lastTextClass : Array UInt8 :=
  ofRuns
    ([(9, 0), (2, 4), (2, 0), (1, 4), (18, 0), (1, 8), (1, 12), (1, 16), (2, 12), (1, 20),
      (1, 12), (1, 16), (1, 24), (1, 28), (2, 12), (1, 32), (1, 12), (1, 36), (1, 12), (10, 44),
      (2, 32), (1, 24), (1, 40), (1, 28), (2, 12), (1, 48), (3, 52), (1, 48), (3, 52), (1, 48),
      (5, 52), (1, 48), (5, 52), (1, 48), (5, 52), (1, 24), (1, 12), (1, 28), (3, 12), (1, 56),
      (3, 60), (1, 56), (3, 60), (1, 56), (5, 60), (1, 56), (5, 60), (1, 56), (5, 60), (1, 24),
      (1, 12), (1, 28), (1, 12), (1, 0)] ++
      (List.replicate 32 [(1, 0), (1, 1)]).flatten ++ (List.replicate 32 [(1, 2), (1, 3)]).flatten)

/-- Classes of the byte before the last one of UTF-8 text. -/
def previousTextClass : Array UInt8 :=
  ofRuns
    [(33, 0), (15, 1), (10, 2), (7, 1), (26, 2), (6, 1), (26, 3), (4, 1), (97, 0), (32, 2)]

/-- Classes of a byte by its size as a signed number. -/
def signedClass : Array UInt8 :=
  ofRuns [(1, 0), (15, 1), (48, 2), (64, 3), (64, 4), (48, 5), (15, 6), (1, 7)]

/-- A way to classify the two bytes before a literal. -/
inductive ContextMode
  /-- The low six bits of the last byte. -/
  | lowBits
  /-- The high six bits of the last byte. -/
  | highBits
  /-- The classes of bytes in UTF-8 text. -/
  | text
  /-- The sizes of signed numbers. -/
  | signed
  deriving DecidableEq, Repr

/-- The mode with a number. -/
def ContextMode.ofBits : Nat → ContextMode
  | 0 => lowBits
  | 1 => highBits
  | 2 => text
  | _ => signed

/-- The context of a literal after two bytes. -/
def ContextMode.classify (mode : ContextMode) (previous last : UInt8) : Nat :=
  match mode with
  | lowBits => (last &&& 63).toNat
  | highBits => (last >>> 2).toNat
  | text =>
    (lastTextClass.getD last.toNat 0 ||| previousTextClass.getD previous.toNat 0).toNat
  | signed =>
    ((signedClass.getD last.toNat 0 <<< 3) ||| signedClass.getD previous.toNat 0).toNat

/-- The context of a distance. -/
def distanceContext (copyLength : Nat) : Nat := min (copyLength - 2) 3

end ContentCoding.Brotli
