import ContentCoding.Lzw.Layer
import ContentCoding.Proofs.Lzw.Bits

/-!
# What a whole LZW stream unpacks to

The bits of a stream are unpacked code by code, with nothing but the code rules: up
to an end code, a code that cannot occur, or the end of the bits. This is what the
decoding layer has to agree with, however it comes by the bits.

A list of codes decodes to data if the decoder accepts them one after another up
to an end code, finds each in the width that it expects, and gives the data. The
main statement is that bits which spell such codes unpack to the data. In these lists,
as in the streams of the encoder, no clear code follows another directly.
-/

namespace ContentCoding.Lzw

/-- What a stream unpacks to. -/
structure Unpacked where
  /-- The bytes before the end code, or before what is wrong. -/
  output : Bytes
  /-- What is wrong, if anything is. -/
  fault : Option Fault
  deriving DecidableEq

namespace Unpacked

/-- What a stream unpacks to if it has more bytes in front. -/
def after (unpacked : Unpacked) (bytes : Bytes) : Unpacked :=
  ⟨bytes ++ unpacked.output, unpacked.fault⟩

/-- The bytes, or what is wrong. -/
def verdict (unpacked : Unpacked) : Except Fault Bytes :=
  match unpacked.fault with
  | none => .ok unpacked.output
  | some fault => .error fault

theorem nil_after (fault : Option Fault) (bytes : Bytes) :
    (⟨[], fault⟩ : Unpacked).after bytes = ⟨bytes, fault⟩ := by
  rw [after, List.append_nil]

theorem after_append (unpacked : Unpacked) (first second : Bytes) :
    unpacked.after (first ++ second) = (unpacked.after second).after first := by
  rw [after, after, after, List.append_assoc]

end Unpacked

namespace Unpacking

variable {unpacking next : Unpacking} {held rest bits : BitQueue} {fields : List BitField}
variable {data string : Bytes} {code : Nat} {assumed : Prop} {cleared : Bool} {unpacked : Unpacked}

/-- Unpack all bits of a stream. -/
def unpack (unpacking : Unpacking) (bits : BitQueue) : Unpacked :=
  match _h : bits.next? unpacking.width with
  | none => ⟨[], some truncated⟩
  | some (code, rest) =>
    match unpacking.accept code with
    | .cleared => unpack {} rest
    | .ended => ⟨[], none⟩
    | .invalid => ⟨[], some invalidCode⟩
    | .string bytes next => (unpack next rest).after bytes
termination_by bits.count
decreasing_by all_goals
  have := BitQueue.next?_count _h
  have : 9 ≤ unpacking.width := unpacking.narrow
  omega

/-- No clear code follows another directly. The flag tells whether one came last. -/
def Steady (unpacking : Unpacking) (cleared : Bool) (bits : BitQueue) : Prop :=
  match _h : bits.next? unpacking.width with
  | none => True
  | some (code, rest) =>
    match unpacking.accept code with
    | .cleared => cleared = false ∧ Steady {} true rest
    | .string _ next => Steady next false rest
    | _ => True
termination_by bits.count
decreasing_by all_goals
  have := BitQueue.next?_count _h
  have : 9 ≤ unpacking.width := unpacking.narrow
  omega

/-- The first code after a clear code gives its own string. -/
theorem accept_first (h : unpacking.previous = none) (hclear : code ≠ clearCode)
    (hend : code ≠ endCode) (hcode : unpacking.stringOf? code = some string) :
    unpacking.accept code = .string string { unpacking with previous := some string } := by
  rw [accept, if_neg hclear, if_neg hend, h]
  dsimp only
  rw [hcode]

/-- A later code gives the next code to the string before it with one more byte. -/
theorem accept_next {previous : Bytes} (h : unpacking.previous = some previous)
    (hclear : code ≠ clearCode) (hend : code ≠ endCode)
    (hcode : unpacking.meaning? previous code = some string) :
    unpacking.accept code = .string string
      { unpacking.assign (previous ++ string.take 1) with previous := some string } := by
  rw [accept, if_neg hclear, if_neg hend, h]
  dsimp only
  rw [hcode]

/-- As long as there are codes left, one of them is assigned. -/
theorem assign_entries (h : unpacking.free < codeLimit) (string : Bytes) :
    (unpacking.assign string).entries = unpacking.entries.push string := by
  obtain ⟨entries, width, previous, narrow, wide⟩ := unpacking
  exact congrArg Unpacking.entries (if_pos h)

/-- The width grows with the codes that are assigned. -/
theorem assign_width (h : unpacking.free < codeLimit) (string : Bytes) :
    (unpacking.assign string).width = widened unpacking.width (unpacking.free + 1) := by
  obtain ⟨entries, width, previous, narrow, wide⟩ := unpacking
  exact congrArg Unpacking.width (if_pos h)

/-- All strings that the decoder knows have bytes. -/
structure Filled (unpacking : Unpacking) : Prop where
  /-- Those of the codes. -/
  entries : ∀ entry ∈ unpacking.entries, entry ≠ []
  /-- The one of the code before. -/
  previous : ∀ previous, unpacking.previous = some previous → previous ≠ []

/-- A new decoder knows no strings. -/
theorem filled_new : Filled {} := ⟨nofun, nofun⟩

/-- The string of a code has bytes. -/
theorem Filled.stringOf? (h : unpacking.Filled) (hs : unpacking.stringOf? code = some string) :
    string ≠ [] := by
  unfold Unpacking.stringOf? at hs
  split at hs
  · exact Option.some.inj hs ▸ List.cons_ne_nil _ _
  · split at hs
    · cases hs
    · exact h.entries string (Array.mem_of_getElem? hs)

/-- So has the one that a code stands for after a previous string. -/
theorem Filled.meaning? (h : unpacking.Filled) {previous : Bytes} (hprevious : previous ≠ [])
    (hs : unpacking.meaning? previous code = some string) : string ≠ [] := by
  unfold Unpacking.meaning? at hs
  split at hs
  · rename_i known hknown
    exact Option.some.inj hs ▸ h.stringOf? hknown
  · split at hs
    · exact Option.some.inj hs ▸ List.append_ne_nil_of_left_ne_nil hprevious _
    · cases hs

/-- Assigning a code to a string with bytes leaves none without. -/
theorem Filled.assign (h : unpacking.Filled) (hs : string ≠ []) :
    ∀ entry ∈ (unpacking.assign string).entries, entry ≠ [] := by
  by_cases hroom : unpacking.free < codeLimit
  · rw [assign_entries hroom]
    intro entry hentry
    rcases Array.mem_push.mp hentry with hold | rfl
    · exact h.entries entry hold
    · exact hs
  · obtain ⟨entries, width, previous, narrow, wide⟩ := unpacking
    have hsame : Unpacking.assign ⟨entries, width, previous, narrow, wide⟩ string =
        ⟨entries, width, previous, narrow, wide⟩ := if_neg hroom
    rw [hsame]
    exact h.entries

/-- A code that gives a string gives bytes, and the decoder remembers them. -/
theorem Filled.accept (h : unpacking.Filled) (ha : unpacking.accept code = .string string next) :
    string ≠ [] ∧ next.previous = some string ∧ next.Filled := by
  unfold Unpacking.accept at ha
  split at ha
  · cases ha
  split at ha
  · cases ha
  split at ha
  · rename_i hprevious
    split at ha
    · cases ha
    · rename_i known hknown
      cases ha
      have hsome := h.stringOf? hknown
      exact ⟨hsome, rfl, h.entries, fun previous hp => Option.some.inj hp ▸ hsome⟩
  · rename_i before hbefore
    split at ha
    · cases ha
    · rename_i known hknown
      cases ha
      have hold := h.previous before hbefore
      have hsome := h.meaning? hold hknown
      exact ⟨hsome, rfl, h.assign (List.append_ne_nil_of_left_ne_nil hold _),
        fun previous hp => Option.some.inj hp ▸ hsome⟩

/-- A stream unpacks to something. It may be assumed that it has no two clear codes in a row. -/
structure Yields (unpacking : Unpacking) (assumed : Prop) (cleared : Bool) (bits : BitQueue)
    (unpacked : Unpacked) : Prop where
  /-- The strings so far have bytes. -/
  filled : unpacking.Filled
  /-- If that is assumed, no clear code follows another directly. -/
  steady : assumed → unpacking.Steady cleared bits
  /-- All bits together unpack to it. -/
  unpack : unpacking.unpack bits = unpacked

/-- Without enough bits for a code the stream is cut short. -/
theorem unpack_of_none (h : bits.next? unpacking.width = none) :
    unpacking.unpack bits = ⟨[], some truncated⟩ := by
  rw [Unpacking.unpack]
  split
  · rfl
  · rename_i hsome
    rw [h] at hsome
    cases hsome

/-- The next code is accepted, and the rest unpacked. -/
theorem unpack_of_some (h : bits.next? unpacking.width = some (code, rest)) :
    unpacking.unpack bits =
      match unpacking.accept code with
      | .cleared => unpack {} rest
      | .ended => ⟨[], none⟩
      | .invalid => ⟨[], some invalidCode⟩
      | .string bytes next => (next.unpack rest).after bytes := by
  rw [Unpacking.unpack]
  split
  · rename_i hnone
    rw [h] at hnone
    cases hnone
  · rename_i other left hsome
    rw [h] at hsome
    obtain ⟨rfl, rfl⟩ := Prod.mk.inj (Option.some.inj hsome)
    rfl

/-- The next code is not a clear code after another, nor is any in the rest. -/
theorem steady_of_some (h : bits.next? unpacking.width = some (code, rest)) :
    unpacking.Steady cleared bits ↔
      match unpacking.accept code with
      | .cleared => cleared = false ∧ Steady {} true rest
      | .string _ next => next.Steady false rest
      | _ => True := by
  rw [Unpacking.Steady]
  split
  · rename_i hnone
    rw [h] at hnone
    cases hnone
  · rename_i other left hsome
    rw [h] at hsome
    obtain ⟨rfl, rfl⟩ := Prod.mk.inj (Option.some.inj hsome)
    rfl

/-- Where there are not enough bits for a code there is no clear code. -/
theorem steady_of_none (h : bits.next? unpacking.width = none) :
    unpacking.Steady cleared bits := by
  rw [Unpacking.Steady]
  split
  · trivial
  · rename_i hsome
    rw [h] at hsome
    cases hsome

/-- Whether a clear code follows another can be found out code by code. -/
def decidableSteady (unpacking : Unpacking) (cleared : Bool) (bits : BitQueue) :
    Decidable (unpacking.Steady cleared bits) :=
  match h : bits.next? unpacking.width with
  | none => .isTrue (steady_of_none h)
  | some (code, rest) =>
    match ha : unpacking.accept code with
    | .cleared =>
      let _ := decidableSteady {} true rest
      decidable_of_iff (cleared = false ∧ Steady {} true rest) (by rw [steady_of_some h, ha])
    | .string _ next =>
      let _ := decidableSteady next false rest
      decidable_of_iff (next.Steady false rest) (by rw [steady_of_some h, ha])
    | .ended => .isTrue (by rw [steady_of_some h, ha]; trivial)
    | .invalid => .isTrue (by rw [steady_of_some h, ha]; trivial)
termination_by bits.count
decreasing_by all_goals
  have := BitQueue.next?_count h
  have : 9 ≤ unpacking.width := unpacking.narrow
  omega

instance (unpacking : Unpacking) (cleared : Bool) (bits : BitQueue) :
    Decidable (unpacking.Steady cleared bits) :=
  decidableSteady unpacking cleared bits

/-- What the next code of a stream comes to, and what the rest of the stream unpacks to. -/
theorem Yields.of_some (h : unpacking.Yields assumed cleared bits unpacked)
    (hn : bits.next? unpacking.width = some (code, rest)) :
    match unpacking.accept code with
    | .cleared => (assumed → cleared = false) ∧ Yields {} assumed true rest unpacked
    | .ended => unpacked = ⟨[], none⟩
    | .invalid => unpacked = ⟨[], some invalidCode⟩
    | .string bytes next => bytes ≠ [] ∧ next.previous = some bytes ∧
        ∃ later, unpacked = later.after bytes ∧ next.Yields assumed false rest later := by
  obtain ⟨hfilled, hsteady, hunpack⟩ := h
  rw [steady_of_some hn] at hsteady
  rw [unpack_of_some hn] at hunpack
  cases ha : unpacking.accept code with
  | cleared =>
    rw [ha] at hsteady hunpack
    exact ⟨fun ha => (hsteady ha).1, filled_new, fun ha => (hsteady ha).2, hunpack⟩
  | ended =>
    rw [ha] at hunpack
    exact hunpack.symm
  | invalid =>
    rw [ha] at hunpack
    exact hunpack.symm
  | string bytes next =>
    rw [ha] at hsteady hunpack
    obtain ⟨hsome, hprevious, hnext⟩ := hfilled.accept ha
    exact ⟨hsome, hprevious, _, hunpack.symm, hnext, hsteady, rfl⟩

/-- Without enough bits for a code nothing more is said but that the stream is cut short. -/
theorem Yields.of_none (h : unpacking.Yields assumed cleared bits unpacked)
    (hn : bits.next? unpacking.width = none) : unpacked = ⟨[], some truncated⟩ :=
  h.unpack.symm.trans (unpack_of_none hn)

/-! ### Lists of codes -/

/-- From a state the decoder accepts codes up to an end code and gives the data. Each code has the
width that is expected, and no clear code follows another, nor comes first after one. -/
def Decodes : Unpacking → (cleared : Bool) → List BitField → Bytes → Prop
  | _, _, [], _ => False
  | unpacking, cleared, field :: fields, data =>
    field.width = unpacking.width ∧ field.value < twoTo field.width ∧
      match unpacking.accept field.value with
      | .cleared => cleared = false ∧ Decodes {} true fields data
      | .ended => data = []
      | .invalid => False
      | .string bytes next => ∃ later, data = bytes ++ later ∧ Decodes next false fields later

/-- Codes that may follow a clear code may follow any. -/
theorem Decodes.anywhere (h : unpacking.Decodes true fields data) (cleared : Bool) :
    unpacking.Decodes cleared fields data := by
  cases fields with
  | nil => exact h.elim
  | cons field fields =>
    obtain ⟨hwidth, hvalue, haccept⟩ := h
    refine ⟨hwidth, hvalue, ?_⟩
    cases ha : unpacking.accept field.value with
    | cleared =>
      rw [ha] at haccept
      exact absurd haccept.1 nofun
    | ended => rwa [ha] at haccept
    | invalid => rwa [ha] at haccept
    | string bytes next => rwa [ha] at haccept

/-- Bits that spell codes which decode to data unpack to the data. -/
theorem Decodes.unpacks (h : unpacking.Decodes cleared fields data) (hbits : bits.Spells fields) :
    unpacking.Steady cleared bits ∧ unpacking.unpack bits = ⟨data, none⟩ := by
  induction fields generalizing unpacking cleared bits data with
  | nil => exact h.elim
  | cons field fields ih =>
    obtain ⟨hwidth, hvalue, haccept⟩ := h
    obtain ⟨rest, hnext, hrest⟩ := hbits.next hvalue
    rw [hwidth] at hnext
    rw [steady_of_some hnext, unpack_of_some hnext]
    cases ha : unpacking.accept field.value with
    | cleared =>
      rw [ha] at haccept
      obtain ⟨hsteady, hunpack⟩ := ih haccept.2 hrest
      exact ⟨⟨haccept.1, hsteady⟩, hunpack⟩
    | ended =>
      rw [ha] at haccept
      exact ⟨trivial, haccept ▸ rfl⟩
    | invalid =>
      rw [ha] at haccept
      exact haccept.elim
    | string bytes next =>
      rw [ha] at haccept
      obtain ⟨later, rfl, hdecodes⟩ := haccept
      obtain ⟨hsteady, hunpack⟩ := ih hdecodes hrest
      exact ⟨hsteady, congrArg (Unpacked.after · bytes) hunpack⟩

/-- After codes a new decoder has given data and is in a state from which it goes on. The flag
tells whether a clear code came last. -/
def After (cleared : Bool) (fields : List BitField) (given : Bytes) (unpacking : Unpacking) :
    Prop :=
  ∀ later data, unpacking.Decodes cleared later data →
    Decodes {} false (fields ++ later) (given ++ data)

/-- After the first clear code a decoder is as new. -/
theorem after_clear : After true [⟨minWidth, clearCode⟩] [] {} := by
  intro later data hlater
  exact ⟨rfl, by decide, rfl, hlater⟩

/-- A state that may be followed by any code may be followed by one that is no clear code. -/
theorem After.steadily {given : Bytes} (h : After cleared fields given unpacking) :
    After true fields given unpacking :=
  fun later data hlater => h later data (hlater.anywhere cleared)

/-- Every width has room for the clear code and the end code. -/
theorem special_lt (unpacking : Unpacking) {code : Nat} (h : code ≤ endCode) :
    code < twoTo unpacking.width :=
  Nat.lt_of_le_of_lt h (Nat.lt_of_lt_of_le (by decide) (twoTo_le unpacking.narrow))

/-- With an end code behind them the codes decode to what was given. -/
theorem After.finish {given : Bytes} (h : After cleared fields given unpacking)
    (later : List BitField) :
    Decodes {} false (fields ++ ⟨unpacking.width, endCode⟩ :: later) given := by
  have hdecodes : unpacking.Decodes cleared (⟨unpacking.width, endCode⟩ :: later) [] :=
    ⟨rfl, unpacking.special_lt (Nat.le_refl _), rfl⟩
  have hall := h _ _ hdecodes
  rw [List.append_nil] at hall
  exact hall

end Unpacking

end ContentCoding.Lzw
