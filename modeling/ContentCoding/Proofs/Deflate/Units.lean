import ContentCoding.Deflate.Block
import ContentCoding.Proofs.Nesting

/-!
# Deflate data remember all of their output

No unit of deflate data forgets output, whatever its bits say: copies may reach back to before a
block, and a format around the data can check all of them.
-/

namespace ContentCoding

namespace Huffman.Tree

open Scan (Keeps Need)

/-- Reading a symbol forgets nothing. -/
theorem keeps_symbol (unassigned : Failure) (tree : Tree) : (tree.symbol unassigned).Keeps := by
  induction tree with
  | missing => trivial
  | leaf symbol => trivial
  | node zero one hzero hone =>
    intro bit
    cases bit with
    | false => exact hzero
    | true => exact hone

/-- Nor does a unit that begins with a symbol and forgets nothing behind it. -/
theorem keeps_needSymbol {α : Type} (unassigned : Failure) (tree : Tree) {next : Nat → Scan α}
    (hnext : ∀ symbol, (next symbol).Keeps) : (tree.needSymbol unassigned next).Keeps := by
  cases tree with
  | missing => exact fun _ => trivial
  | leaf symbol => exact fun _ => trivial
  | node zero one =>
    intro bit
    cases bit with
    | false => exact (keeps_symbol unassigned zero).bind hnext
    | true => exact (keeps_symbol unassigned one).bind hnext

end Huffman.Tree

namespace Deflate

open Huffman Scan

/-- Values of ranges forget nothing. -/
theorem keeps_valueOf (spans : Array Span) (index : Nat) : (valueOf spans index).Keeps := by
  rw [valueOf]
  split
  · exact (keeps_bits _).bind fun _ => trivial
  · trivial

/-- Nor do numbers of three bits. -/
theorem keeps_triples (count : Nat) (taken : List Nat) : (triples count taken).Keeps := by
  induction count generalizing taken with
  | zero => trivial
  | succ count ih => exact (keeps_bits 3).bind fun value => ih (value :: taken)

/-- Nor does the code in which code lengths are given. -/
theorem keeps_lengthCode (count : Nat) : (lengthCode count).Keeps := by
  refine (keeps_triples count []).bind fun given => ?_
  dsimp only
  split <;> trivial

/-- Nor do code lengths, repeated ones included. -/
theorem keeps_lengthsFor (code : Tree) (total steps count : Nat) (lengths : List Nat) :
    (lengthsFor code total steps count lengths).Keeps := by
  induction steps generalizing count lengths with
  | zero => trivial
  | succ steps ih =>
    rw [lengthsFor]
    split
    · trivial
    split
    · trivial
    refine (code.keeps_symbol corrupt).bind fun symbol => ?_
    dsimp only
    split
    · exact ih _ _
    split
    · split
      · trivial
      · exact (keeps_bits _).bind fun _ => ih _ _
    split
    · exact (keeps_bits _).bind fun _ => ih _ _
    · exact (keeps_bits _).bind fun _ => ih _ _

/-- Nor do the lengths of both codes. -/
theorem keeps_codeLengths (code : Tree) (total : Nat) : (codeLengths code total).Keeps := by
  refine (keeps_lengthsFor code total (total + 1) 0 []).bind fun lengths => ?_
  split <;> trivial

/-- Nor does a code that lengths stand for. -/
theorem keeps_codeOf (lengths : List Nat) : (codeOf lengths).Keeps := by
  rw [codeOf]
  split <;> trivial

/-- Nor do the codes of a block. -/
theorem keeps_givenCodes : givenCodes.Keeps := by
  refine (keeps_bits 5).bind fun literals => (keeps_bits 5).bind fun distances =>
    (keeps_bits 4).bind fun lengths => (keeps_require _ _).bind fun _ =>
      (keeps_lengthCode _).bind fun code => (keeps_codeLengths code _).bind fun lengths =>
        (keeps_codeOf _).bind fun literals => (keeps_codeOf _).bind fun distances => trivial

/-- Nor does a stored block. -/
theorem keeps_storedBytes : storedBytes.Keeps :=
  (keeps_bytes 2).bind fun _ => (keeps_bytes 2).bind fun _ =>
    (keeps_require _ _).bind fun _ => keeps_store _

/-- Nor does any other block. -/
theorem keeps_block (last : Bool) : (block last).Keeps := by
  refine (keeps_bits 2).bind fun kind => ?_
  split
  · exact keeps_storedBytes.bind fun _ => trivial
  split
  · trivial
  split
  · exact keeps_givenCodes.bind fun _ => trivial
  · trivial

/-- Nor does a symbol of a block, be it a byte, the end or a copy. -/
theorem keeps_interpret (last : Bool) (codes : Codes) (symbol : Nat) :
    (interpret last codes symbol).Keeps := by
  rw [interpret]
  split
  · trivial
  split
  · trivial
  · -- whatever the ranges are, so that nothing computes them
    generalize lengthSpans = lengths, distanceSpans = distances
    exact (keeps_valueOf lengths _).bind fun length => (codes.distances.keeps_symbol corrupt).bind
      fun further => (keeps_valueOf distances further).bind fun distance => trivial

/-- So no unit does. -/
theorem keeps_unit (mode : Mode) : (unit mode).Keeps := by
  cases mode with
  | head => exact keeps_block
  | symbols last codes => exact codes.literals.keeps_needSymbol corrupt (keeps_interpret last codes)

end Deflate

end ContentCoding
