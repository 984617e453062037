import ContentCoding.Amount
import ContentCoding.Lzw.Code

/-!
# LZW codes as a decoder sees them

The decoder assigns codes in the same order as the encoder did, one code later:
each code after the first gives the next free code to the previous string
extended by the first byte of the present one. A code may name the very string
that it completes.

A code that cannot occur makes the decoder forget the previous string and nothing
else, so it goes on after it if it is called again.
-/

namespace ContentCoding.Lzw

/-- The width of the next code once so many codes are in use. It grows one code before
the encoder's, since the decoder is one code behind. -/
def widened (width free : Nat) : Nat :=
  if twoTo width ≤ free ∧ width < maxWidth then width + 1 else width

/-- Codes do not get narrower. -/
theorem le_widened (width free : Nat) : width ≤ widened width free := by
  unfold widened
  split <;> omega

/-- Codes do not get too wide. -/
theorem widened_le {width : Nat} (h : width ≤ maxWidth) (free : Nat) :
    widened width free ≤ maxWidth := by
  unfold widened
  split
  · rename_i hmore
    exact hmore.2
  · exact h

/-- The narrowest codes are not too wide. -/
theorem minWidth_le_maxWidth : minWidth ≤ maxWidth := by decide

/-- What a decoder knows about codes. -/
structure Unpacking where
  /-- The strings of the codes assigned so far, in order. -/
  entries : Array Bytes := #[]
  /-- Bits of the next code. -/
  width : Nat := minWidth
  /-- The string of the code before, unless that was a clear code. -/
  previous : Option Bytes := none
  /-- A code has nine bits at least. -/
  narrow : minWidth ≤ width := by exact Nat.le_refl minWidth
  /-- A code has twelve bits at most. -/
  wide : width ≤ maxWidth := by exact minWidth_le_maxWidth

/-- What a code says. -/
inductive Reading
  /-- The table is emptied. -/
  | cleared
  /-- The stream ends. -/
  | ended
  /-- The code cannot occur. -/
  | invalid
  /-- The code gives a string, and the decoder knows more. -/
  | string (bytes : Bytes) (next : Unpacking)

namespace Unpacking

/-- The next code to assign. -/
def free (unpacking : Unpacking) : Nat := firstFree + unpacking.entries.size

/-- The string that a code names. -/
def stringOf? (unpacking : Unpacking) (code : Nat) : Option Bytes :=
  if code < 256 then some [UInt8.ofNat code]
  else if code < firstFree then none
  else unpacking.entries[code - firstFree]?

/-- The string that a code stands for after a previous string. -/
def meaning? (unpacking : Unpacking) (previous : Bytes) (code : Nat) : Option Bytes :=
  match unpacking.stringOf? code with
  | some string => some string
  | none => if code = unpacking.free then some (previous ++ previous.take 1) else none

/-- Assign the next code, unless all codes are taken. -/
def assign (unpacking : Unpacking) (string : Bytes) : Unpacking :=
  match unpacking with
  | ⟨entries, width, previous, narrow, wide⟩ =>
    let code := firstFree + entries.size
    if code < codeLimit then
      ⟨entries.push string, widened width (code + 1), previous,
        Nat.le_trans narrow (le_widened ..), widened_le wide _⟩
    else ⟨entries, width, previous, narrow, wide⟩

/-- Read one code. Without a previous string nothing is assigned. -/
def accept (unpacking : Unpacking) (code : Nat) : Reading :=
  if code = clearCode then .cleared
  else if code = endCode then .ended
  else
    match unpacking.previous with
    | none =>
      match unpacking.stringOf? code with
      | none => .invalid
      | some string => .string string { unpacking with previous := some string }
    | some previous =>
      match unpacking.meaning? previous code with
      | none => .invalid
      | some string =>
        .string string
          { unpacking.assign (previous ++ string.take 1) with previous := some string }

end Unpacking

end ContentCoding.Lzw
