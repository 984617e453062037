import ContentCoding.Decode.Scan

/-!
# Prefix codes

A prefix code is a binary tree: each bit goes down to one side, and a leaf names
a symbol. Paths that no symbol uses are missing.

A canonical code is given by the lengths of its code words alone. Shorter words
come first, and words of one length are in the order of their symbols, so the
leaves of the tree from left to right are the symbols in that order. `ofLengths`
grows the tree along this list.
-/

namespace ContentCoding.Huffman

/-- A prefix code. -/
inductive Tree
  /-- No code word goes this way. -/
  | missing
  /-- A code word ends here. -/
  | leaf (symbol : Nat)
  /-- The next bit decides. -/
  | node (zero one : Tree)
  deriving Inhabited, Repr

namespace Tree

/-- Whether every way down the tree ends in a symbol. -/
def isComplete : Tree → Bool
  | missing => false
  | leaf _ => true
  | node zero one => zero.isComplete && one.isComplete

/-- Read a symbol. -/
def symbol (unassigned : Failure) : Tree → Scan Nat
  | missing => .fail unassigned
  | leaf symbol => .done symbol
  | node zero one => .bit fun bit =>
    if bit then one.symbol unassigned else zero.symbol unassigned

/-- Read a symbol of a code in which no word is empty. -/
def needSymbol {α : Type} (unassigned : Failure) (tree : Tree) (next : Nat → Scan α) :
    Scan.Need α :=
  match tree with
  | node zero one => .bit fun bit =>
    (if bit then one.symbol unassigned else zero.symbol unassigned).bind next
  | _ => .bit fun _ => .fail unassigned

end Tree

/-- A symbol with the length of its code word. -/
structure Word where
  /-- The length. -/
  length : Nat
  /-- The symbol. -/
  symbol : Nat

/-- Grow a tree at some depth from words in canonical order, with so many levels
to go. The words that found no place are left over. -/
def grow : (levels : Nat) → (depth : Nat) → List Word → Tree × List Word
  | _, _, [] => (.missing, [])
  | levels, depth, word :: rest =>
    if word.length = depth then (.leaf word.symbol, rest)
    else
      match levels with
      | 0 => (.missing, word :: rest)
      | levels + 1 =>
        let (zero, left) := grow levels (depth + 1) (word :: rest)
        let (one, left) := grow levels (depth + 1) left
        (.node zero one, left)

/-- The words that lengths stand for, in canonical order. Length zero means that a
symbol has no word. -/
def wordsOfLengths (maxLength : Nat) (lengths : List Nat) : List Word :=
  let words := lengths.zipIdx.map fun (length, symbol) => Word.mk length symbol
  (List.range' 1 maxLength).flatMap fun length => words.filter fun word => word.length = length

/-- A tree grown from lengths. -/
structure Grown where
  /-- The tree. -/
  tree : Tree
  /-- How many words there are. -/
  words : Nat
  /-- Whether there were too many words for their lengths. -/
  overfull : Bool

/-- The canonical code with words of given lengths. -/
def ofLengths (maxLength : Nat) (lengths : List Nat) : Grown :=
  let words := wordsOfLengths maxLength lengths
  let (tree, left) := grow maxLength 0 words
  ⟨tree, words.length, !left.isEmpty⟩

end ContentCoding.Huffman
