import ContentCoding.Amount
import ContentCoding.Encode.BitField
import ContentCoding.Huffman.Code

/-!
# Code lengths from counts

The shortest code for symbols that occur given numbers of times comes from joining the
two rarest groups of symbols again and again. Only the depths of the symbols matter:
the canonical code is built from them.

Codes with a greatest length start from the depths of the unlimited code. Longer words
are cut to the greatest length, and then words are moved down one level, starting as
deep as possible, until there is room for all.
-/

namespace ContentCoding.Huffman

/-- Symbols in a group, with the lengths of the words that they have in it. -/
structure Group where
  /-- How often they occur together. -/
  count : Nat
  /-- The words. -/
  words : List Word

/-- A symbol by itself. -/
def Group.single (count symbol : Nat) : Group := ⟨count, [⟨0, symbol⟩]⟩

/-- Join two groups, which makes their words longer. -/
def Group.join (first second : Group) : Group :=
  ⟨first.count + second.count,
    (first.words ++ second.words).map fun word => ⟨word.length + 1, word.symbol⟩⟩

/-- Take the rarer of the groups that two lists begin with. The first list goes first if
there is a tie. -/
def takeRarest : (first second : List Group) → Option (Group × List Group × List Group)
  | [], [] => none
  | one :: first, [] => some (one, first, [])
  | [], other :: second => some (other, [], second)
  | one :: first, other :: second =>
    if other.count < one.count then some (other, one :: first, second)
    else some (one, first, other :: second)

/-- Take the rarest of single symbols and joined groups. -/
def takeNext (singlesFirst : Bool) (singles joined : List Group) :
    Option (Group × List Group × List Group) :=
  if singlesFirst then takeRarest singles joined
  else (takeRarest joined singles).map fun (group, joined, singles) => (group, singles, joined)

/-- The words of the shortest code, with so many groups to be joined. Single symbols are in
the order of their counts. -/
def shortestCode (singlesFirst : Bool) : (joins : Nat) → (singles joined : List Group) → List Word
  | 0, singles, joined => (singles ++ joined).flatMap Group.words
  | joins + 1, singles, joined =>
    match takeNext singlesFirst singles joined with
    | none => []
    | some (first, singles, joined) =>
      match takeNext singlesFirst singles joined with
      | none => first.words
      | some (second, singles, joined) =>
        shortestCode singlesFirst joins singles (joined ++ [first.join second])

/-- How many words there are of each length, from zero on, when longer ones are cut. -/
def histogram (limit : Nat) (depths : List Nat) : Array Nat :=
  depths.foldl (fun counts depth => counts.modify (min depth limit) (· + 1))
    (Array.replicate (limit + 1) 0)

/-- The share of a space of `2 ^ limit` that words take. -/
def spaceUsed (limit : Nat) (counts : Array Nat) : Nat :=
  sumOf ((List.range' 1 limit).map fun length => counts.getD length 0 * twoTo (limit - length))

/-- The longest length below the limit that has a word. -/
def longestBelow (counts : Array Nat) : (limit : Nat) → Option Nat
  | 0 => none
  | 1 => none
  | limit + 2 => if counts.getD (limit + 1) 0 ≠ 0 then some (limit + 1) else longestBelow counts (limit + 1)

/-- Make room for one word of the greatest length. -/
def makeRoom (limit : Nat) (counts : Array Nat) : Array Nat :=
  let counts := counts.modify limit (· - 1)
  match longestBelow counts limit with
  | none => counts
  | some length => (counts.modify length (· - 1)).modify (length + 1) (· + 2)

/-- Code lengths no greater than a limit for symbols with given counts. A symbol that does
not occur has length zero, and one that occurs alone has length one. -/
def limitedLengths (limit : Nat) (counts : List Nat) : List Nat :=
  let used := (counts.zipIdx.filter fun (count, _) => count ≠ 0).mergeSort
    fun (count, _) (other, _) => count ≤ other
  let words :=
    match used with
    | [] => #[]
    | [_] => #[0, 1]
    | _ =>
      let words := shortestCode true (used.length - 1)
        (used.map fun (count, symbol) => .single count symbol) []
      let counts := histogram limit (words.map Word.length)
      Nat.repeat (makeRoom limit) (spaceUsed limit counts - twoTo limit) counts
  let lengths := words.toList.zipIdx.flatMap fun (count, length) => List.replicate count length
  ((used.map Prod.snd).reverse.zip lengths).foldl
    (fun all (symbol, length) => all.set symbol length) (List.replicate counts.length 0)

/-- The code words of a tree with the symbols that they stand for, the first bit in the
lowest place. -/
def Tree.wordsFrom : (width value : Nat) → Tree → List (Nat × BitField)
  | _, _, missing => []
  | width, value, leaf symbol => [(symbol, ⟨width, value⟩)]
  | width, value, node zero one =>
    zero.wordsFrom (width + 1) value ++ one.wordsFrom (width + 1) (value + twoTo width)

/-- The code words for so many symbols. A symbol without a word has an empty one. -/
def Tree.wordsFor (tree : Tree) (size : Nat) : Array BitField :=
  (tree.wordsFrom 0 0).foldl (fun words (symbol, word) => words.setIfInBounds symbol word)
    (Array.replicate size ⟨0, 0⟩)

end ContentCoding.Huffman
