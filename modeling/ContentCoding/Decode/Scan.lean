import ContentCoding.Decode.Transducer

/-!
# Reading an encoded stream

A `Scan` describes one piece of an encoded stream as data: a finite tree that
asks for bits and bytes, puts out decoded bytes, repeats earlier output, and
ends in a result or a failure. Bits come least significant first. Asking for a
byte drops what is left of a byte that was partly read.

A scan says nothing about how the stream arrives. `advance` carries it to the
next point where it needs input, so it can wait there for as long as it takes.
-/

namespace ContentCoding

/-- A finite exchange with an encoded stream, ending in a result. -/
inductive Scan (α : Type) : Type
  /-- The exchange is over. -/
  | done (result : α)
  /-- The stream is not valid. -/
  | fail (failure : Failure)
  /-- Take the next bit. -/
  | bit (next : Bool → Scan α)
  /-- Take the next whole byte. -/
  | byte (next : UInt8 → Scan α)
  /-- Put out bytes. -/
  | emit (bytes : Bytes) (next : Unit → Scan α)
  /-- Put out bytes again, starting so far back. Output of the copy counts, and what
  lies before all output is zero. -/
  | copy (distance length : Nat) (next : Unit → Scan α)
  /-- Forget the output so far. -/
  | forget (next : Unit → Scan α)
  /-- Look at the output so far, and at how many bits of the present byte are left. -/
  | inspect (next : (history : Array UInt8) → (bitsLeft : Nat) → Scan α)

namespace Scan

variable {α β : Type}

/-- One exchange after another. -/
def bind (first : Scan α) (second : α → Scan β) : Scan β :=
  match first with
  | .done result => second result
  | .fail failure => .fail failure
  | .bit next => .bit fun bit => (next bit).bind second
  | .byte next => .byte fun byte => (next byte).bind second
  | .emit bytes next => .emit bytes fun _ => (next ()).bind second
  | .copy distance length next => .copy distance length fun _ => (next ()).bind second
  | .forget next => .forget fun _ => (next ()).bind second
  | .inspect next => .inspect fun history bitsLeft => (next history bitsLeft).bind second

instance : Monad Scan where
  pure := .done
  bind := bind

/-- Put out bytes. -/
def put (bytes : Bytes) : Scan Unit := .emit bytes .done

/-- Repeat earlier output. -/
def again (distance length : Nat) : Scan Unit := .copy distance length .done

/-- Forget the output so far. -/
def restart : Scan Unit := .forget .done

/-- The amount of output so far. -/
def produced : Scan Nat := .inspect fun history _ => .done history.size

/-- Go on only if a condition holds. -/
def require (condition : Bool) (failure : Failure) : Scan Unit :=
  if condition then .done () else .fail failure

/-- Add bits to a number, the next one having a given weight. -/
def bitsOnto (value weight : Nat) : (count : Nat) → Scan Nat
  | 0 => .done value
  | count + 1 => .bit fun bit =>
    bitsOnto (if bit then value + weight else value) (2 * weight) count

/-- A number of so many bits, least significant first. -/
def bits (count : Nat) : Scan Nat := bitsOnto 0 1 count

/-- Take bytes after some that are passed along, last one first. -/
def bytesAfter : (count : Nat) → Bytes → Scan Bytes
  | 0, taken => .done taken.reverse
  | count + 1, taken => .byte fun byte => bytesAfter count (byte :: taken)

/-- So many whole bytes. -/
def bytes (count : Nat) : Scan Bytes := bytesAfter count []

/-- Put out so many bytes of the stream as they are. -/
def store : (count : Nat) → Scan Unit
  | 0 => .done ()
  | count + 1 => .byte fun byte => .emit [byte] fun _ => store count

/-- Pass over so many whole bytes. -/
def skip : (count : Nat) → Scan Unit
  | 0 => .done ()
  | count + 1 => .byte fun _ => skip count

/-- A scan that is waiting for input. -/
inductive Need (α : Type) : Type
  /-- The next bit is wanted. -/
  | bit (next : Bool → Scan α)
  /-- The next whole byte is wanted. -/
  | byte (next : UInt8 → Scan α)

/-- Change the result of a scan that is waiting. -/
def Need.map (f : α → β) : Need α → Need β
  | .bit next => .bit fun bit => (next bit).bind fun result => .done (f result)
  | .byte next => .byte fun byte => (next byte).bind fun result => .done (f result)

/-- Where a scan stops without further input. -/
inductive Halt (α : Type) : Type
  /-- It needs input. -/
  | needs (need : Need α)
  /-- It is over. -/
  | done (result : α)
  /-- The stream is not valid. -/
  | failed (failure : Failure)

/-- Output with the part of it that is still to be handed on, reversed. -/
structure Trail where
  /-- The output since the last restart. -/
  history : Array UInt8
  /-- The latest output, last byte first. -/
  fresh : Bytes

namespace Trail

/-- Put out one byte. -/
def push : Trail → UInt8 → Trail
  | ⟨history, fresh⟩, last => ⟨history.push last, last :: fresh⟩

/-- Put out bytes. -/
def append (trail : Trail) (bytes : Bytes) : Trail := bytes.foldl push trail

/-- Repeat earlier output. -/
def copy (distance : Nat) : (length : Nat) → Trail → Trail
  | 0, trail => trail
  | length + 1, ⟨history, fresh⟩ =>
    let last := if distance ≤ history.size then history.getD (history.size - distance) 0 else 0
    copy distance length ⟨history.push last, last :: fresh⟩

end Trail

/-- Carry a scan on to where it needs input. -/
def advance (bitsLeft : Nat) : Scan α → Trail → Halt α × Trail
  | .done result, trail => (.done result, trail)
  | .fail failure, trail => (.failed failure, trail)
  | .bit next, trail => (.needs (.bit next), trail)
  | .byte next, trail => (.needs (.byte next), trail)
  | .emit bytes next, trail => advance bitsLeft (next ()) (trail.append bytes)
  | .copy distance length next, trail =>
    advance bitsLeft (next ()) (trail.copy distance length)
  | .forget next, trail => advance bitsLeft (next ()) ⟨#[], trail.fresh⟩
  | .inspect next, trail => advance bitsLeft (next trail.history bitsLeft) trail

end Scan

end ContentCoding
