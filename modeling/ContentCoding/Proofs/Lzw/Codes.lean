import ContentCoding.Proofs.Lzw.Packing

/-!
# The codes of a stream

The codes that an encoder sends depend on its input alone: a clear code, the codes of the
strings that the input is cut into, with more clear codes where the table is full, and an
end code. A stream is these codes one right after the other, filled up with zero bits to a
whole byte.

A decoder passes codes if it accepts them one after another without coming to an end. The
main statement is that a decoder passes all codes of a stream but the last, which is the end
code, and gives the data meanwhile. So where a stream is cut short, a decoder has given the
first part of the data and waits for a code.
-/

namespace ContentCoding

namespace BitField

/-- Fields one right after the other, filled up with zero bits to a whole byte. -/
def pack (fields : List BitField) : Bytes :=
  Bytes.littleEndian ((totalWidth fields + 7) / 8) (spell fields)

end BitField

namespace Lzw

namespace BitQueue

/-- Append fields one after another. -/
def pushAll (queue : BitQueue) (fields : List BitField) : BitQueue :=
  fields.foldl (fun queue field => queue.push field.value field.width) queue

/-- Fields may be appended one part after the other. -/
theorem pushAll_append (queue : BitQueue) (first second : List BitField) :
    queue.pushAll (first ++ second) = (queue.pushAll first).pushAll second :=
  List.foldl_append

/-- Fields that are appended spell what comes behind the bits there were. -/
theorem pushAll_eq (queue : BitQueue) (fields : List BitField) :
    queue.pushAll fields =
      ⟨queue.value + twoTo queue.count * BitField.spell fields,
        queue.count + BitField.totalWidth fields⟩ := by
  induction fields generalizing queue with
  | nil => rfl
  | cons field fields ih =>
    have hstep : queue.pushAll (field :: fields) =
        (queue.push field.value field.width).pushAll fields := rfl
    have hvalue : queue.value + field.value * twoTo queue.count +
        twoTo (queue.count + field.width) * BitField.spell fields =
          queue.value + twoTo queue.count *
            (field.value + twoTo field.width * BitField.spell fields) := by
      rw [twoTo_add, Nat.mul_add, Nat.mul_comm field.value, Nat.mul_assoc, Nat.add_assoc]
    rw [hstep, ih, BitQueue.push, BitField.spell, BitField.totalWidth_cons]
    exact congr (congrArg mk hvalue) (Nat.add_assoc _ _ _)

/-- Fields that fit their widths may be appended to what completes others. -/
theorem Completes.pushAll {held : BitQueue} {bytes : Bytes} {before fields : List BitField}
    (h : held.Completes bytes before) (hfit : ∀ field ∈ fields, field.value < twoTo field.width) :
    (held.pushAll fields).Completes bytes (before ++ fields) := by
  induction fields generalizing held before with
  | nil =>
    rw [List.append_nil]
    exact h
  | cons field fields ih =>
    have hfirst : field.value < twoTo field.width := hfit field (List.mem_cons_self ..)
    have hrest := ih (h.push hfirst) fun other hmem => hfit other (List.mem_cons_of_mem _ hmem)
    rw [List.append_assoc] at hrest
    exact hrest

end BitQueue

namespace Packing

/-- The codes that are sent when a byte is taken. -/
def sends (packing : Packing) (byte : UInt8) : List BitField :=
  match packing.pending with
  | none => []
  | some code =>
    match packing.table[key code byte]? with
    | some _ => []
    | none =>
      if packing.free = codeLimit then [⟨packing.width, code⟩, ⟨packing.width, clearCode⟩]
      else [⟨packing.width, code⟩]

/-- The code of the string that is pending at the end. -/
def leftover (packing : Packing) : List BitField :=
  match packing.pending with
  | none => []
  | some code => [⟨packing.width, code⟩]

/-- The end code, which is as wide as a decoder expects it after the leftover. -/
def endField (packing : Packing) : BitField :=
  match packing.pending with
  | none => ⟨packing.width, endCode⟩
  | some _ => ⟨widened packing.width packing.free, endCode⟩

/-- The codes that are sent for some input and the end behind it. -/
def codesFrom : Packing → (input : Bytes) → List BitField
  | packing, [] => packing.leftover ++ [packing.endField]
  | packing, byte :: input => packing.sends byte ++ codesFrom (packing.extend byte).1 input

/-- The codes of the stream of some data. -/
def codes (data : Bytes) : List BitField := ⟨minWidth, clearCode⟩ :: codesFrom {} data

variable {packing : Packing}

/-- Taking a byte puts the codes that are sent behind the bits that are held. -/
theorem extend_held (packing : Packing) (byte : UInt8) :
    (packing.extend byte).1.held = packing.held.pushAll (packing.sends byte) := by
  cases hp : packing.pending with
  | none => simp only [extend, sends, hp]; rfl
  | some code =>
    cases hfound : packing.table[key code byte]? with
    | some longer => simp only [extend, sends, hp, hfound]; rfl
    | none =>
      by_cases hfull : packing.free = codeLimit
      · rw [extend_of_full hp hfound hfull]
        simp only [sends, hp, hfound, hfull, if_true]
        rfl
      · rw [extend_of_room hp hfound hfull]
        simp only [sends, hp, hfound, hfull, if_false]
        rfl

/-- Taking a byte does not end the stream. -/
theorem extend_ended (packing : Packing) (byte : UInt8) :
    (packing.extend byte).1.ended = packing.ended := by
  cases hp : packing.pending with
  | none => simp only [extend, hp]
  | some code =>
    cases hfound : packing.table[key code byte]? with
    | some longer => simp only [extend, hp, hfound]
    | none =>
      by_cases hfull : packing.free = codeLimit
      · rw [extend_of_full hp hfound hfull]
      · rw [extend_of_room hp hfound hfull]

/-- Ending puts the last codes behind the bits that are held, and fills up the byte. -/
theorem terminate_held (packing : Packing) :
    packing.terminate.held =
      (packing.held.pushAll (packing.leftover ++ [packing.endField])).pad := by
  cases hp : packing.pending with
  | none => simp only [terminate, leftover, endField, hp]; rfl
  | some code =>
    simp only [terminate, leftover, endField, hp, widened, send]
    by_cases hgrows : twoTo packing.width ≤ packing.free ∧ packing.width < maxWidth
    · simp only [if_pos hgrows]; rfl
    · simp only [if_neg hgrows]; rfl

end Packing

namespace Unpacking

variable {unpacking middle next : Unpacking} {fields later : List BitField} {data more : Bytes}
variable {cleared between last : Bool}

/-- From a state the decoder accepts codes of the widths that it expects, gives data and comes to
another state. The flags tell whether a clear code came last, before and after. None follows another
directly. -/
def Passes : Unpacking → (cleared : Bool) → List BitField → Bytes → Unpacking → Bool → Prop
  | unpacking, cleared, [], data, next, last => data = [] ∧ unpacking = next ∧ cleared = last
  | unpacking, cleared, field :: fields, data, next, last =>
    field.width = unpacking.width ∧ field.value < twoTo field.width ∧
      match unpacking.accept field.value with
      | .cleared => cleared = false ∧ Passes {} true fields data next last
      | .string bytes after => ∃ later, data = bytes ++ later ∧ Passes after false fields later next last
      | _ => False

/-- Without codes a decoder stays where it is. -/
theorem passes_nil (unpacking : Unpacking) (cleared : Bool) :
    unpacking.Passes cleared [] [] unpacking cleared := ⟨rfl, rfl, rfl⟩

/-- A code that gives a string is passed. -/
theorem passes_string {code : Nat} {string : Bytes} (hcode : code < twoTo unpacking.width)
    (haccept : unpacking.accept code = .string string next) :
    unpacking.Passes cleared [⟨unpacking.width, code⟩] string next false := by
  refine ⟨rfl, hcode, ?_⟩
  rw [haccept]
  exact ⟨[], (List.append_nil _).symm, passes_nil next false⟩

/-- A clear code is passed, unless one came just before. -/
theorem passes_clear (unpacking : Unpacking) :
    unpacking.Passes false [⟨unpacking.width, clearCode⟩] [] {} true :=
  ⟨rfl, unpacking.special_lt (Nat.le_succ _), rfl, passes_nil {} true⟩

/-- Codes that are passed one after another are passed together. -/
theorem Passes.append (h : unpacking.Passes cleared fields data middle between)
    (hl : middle.Passes between later more next last) :
    unpacking.Passes cleared (fields ++ later) (data ++ more) next last := by
  induction fields generalizing unpacking cleared data with
  | nil =>
    obtain ⟨rfl, rfl, rfl⟩ := h
    exact hl
  | cons field fields ih =>
    obtain ⟨hwidth, hvalue, haccept⟩ := h
    refine ⟨hwidth, hvalue, ?_⟩
    cases ha : unpacking.accept field.value with
    | cleared =>
      rw [ha] at haccept
      exact ⟨haccept.1, ih haccept.2⟩
    | ended =>
      rw [ha] at haccept
      exact haccept.elim
    | invalid =>
      rw [ha] at haccept
      exact haccept.elim
    | string bytes after =>
      rw [ha] at haccept
      obtain ⟨rest, rfl, hpasses⟩ := haccept
      exact ⟨rest ++ more, List.append_assoc _ _ _, ih hpasses⟩

/-- Codes that are passed fit their widths. -/
theorem Passes.fit (h : unpacking.Passes cleared fields data next last) :
    ∀ field ∈ fields, field.value < twoTo field.width := by
  induction fields generalizing unpacking cleared data with
  | nil => exact nofun
  | cons field fields ih =>
    obtain ⟨-, hvalue, haccept⟩ := h
    refine List.forall_mem_cons.mpr ⟨hvalue, ?_⟩
    cases ha : unpacking.accept field.value with
    | cleared =>
      rw [ha] at haccept
      exact ih haccept.2
    | ended =>
      rw [ha] at haccept
      exact haccept.elim
    | invalid =>
      rw [ha] at haccept
      exact haccept.elim
    | string bytes after =>
      rw [ha] at haccept
      obtain ⟨rest, -, hpasses⟩ := haccept
      exact ih hpasses

/-- Codes that decode to data from the state after others decode with those in front of them. -/
theorem Passes.decodes (h : unpacking.Passes cleared fields data next last)
    (hl : next.Decodes last later more) :
    unpacking.Decodes cleared (fields ++ later) (data ++ more) := by
  induction fields generalizing unpacking cleared data with
  | nil =>
    obtain ⟨rfl, rfl, rfl⟩ := h
    exact hl
  | cons field fields ih =>
    obtain ⟨hwidth, hvalue, haccept⟩ := h
    refine ⟨hwidth, hvalue, ?_⟩
    cases ha : unpacking.accept field.value with
    | cleared =>
      rw [ha] at haccept
      exact ⟨haccept.1, ih haccept.2⟩
    | ended =>
      rw [ha] at haccept
      exact haccept.elim
    | invalid =>
      rw [ha] at haccept
      exact haccept.elim
    | string bytes after =>
      rw [ha] at haccept
      obtain ⟨rest, rfl, hpasses⟩ := haccept
      exact ⟨rest ++ more, List.append_assoc _ _ _, ih hpasses⟩

/-- A state after codes may be followed by the codes that are passed from it. -/
theorem After.pass {before : List BitField} {given : Bytes} (h : After cleared before given unpacking)
    (hp : unpacking.Passes cleared fields data next last) :
    After last (before ++ fields) (given ++ data) next := by
  intro rest tail hrest
  rw [List.append_assoc, List.append_assoc]
  exact h _ _ (hp.decodes hrest)

end Unpacking

namespace InStep

variable {packing : Packing} {unpacking : Unpacking} {string : Bytes}

/-- The decoder passes the pending code and gives the pending string. It then has all entries that
the encoder has. -/
theorem passes_pending {code : Nat} (h : InStep packing unpacking string)
    (hp : packing.pending = some code) (cleared : Bool) :
    ∃ next, unpacking.Passes cleared [⟨packing.width, code⟩] string next false ∧
      next.previous = some string ∧ next.entries = unpacking.awaiting string ∧
      next.width = widened packing.width packing.free := by
  obtain ⟨next, haccept, hnext⟩ := h.accept hp
  have hcode : code < twoTo unpacking.width := h.width ▸ h.code_lt hp
  refine ⟨next, ?_, hnext⟩
  rw [h.width]
  exact Unpacking.passes_string hcode haccept

/-- Taking a byte keeps step: the decoder passes the codes that are sent, and what it gives and the
string that is pending then are the string that was pending and the byte. -/
theorem extend (h : InStep packing unpacking string) (cleared : Bool) (byte : UInt8) :
    ∃ given rest next last, string ++ [byte] = given ++ rest ∧
      unpacking.Passes cleared (packing.sends byte) given next last ∧
      InStep (packing.extend byte).1 next rest := by
  cases hp : packing.pending with
  | none =>
    obtain ⟨rfl, hnext⟩ := h.begin hp byte
    have hextend : packing.extend byte = ({ packing with pending := some byte.toNat }, false) := by
      rw [Packing.extend, hp]
    have hsends : packing.sends byte = [] := by rw [Packing.sends, hp]
    rw [hextend, hsends]
    exact ⟨[], [byte], unpacking, cleared, rfl, Unpacking.passes_nil unpacking cleared, hnext⟩
  | some code =>
    cases hfound : packing.table[Packing.key code byte]? with
    | some longer =>
      have hextend : packing.extend byte = ({ packing with pending := some longer }, false) := by
        rw [Packing.extend, hp]
        dsimp only
        rw [hfound]
      have hsends : packing.sends byte = [] := by
        rw [Packing.sends, hp]
        dsimp only
        rw [hfound]
      rw [hextend, hsends]
      exact ⟨[], string ++ [byte], unpacking, cleared, rfl,
        Unpacking.passes_nil unpacking cleared, h.longer hp hfound⟩
    | none =>
      obtain ⟨next, hpasses, hprevious, hentries, hwidth⟩ := h.passes_pending hp cleared
      by_cases hfull : packing.free = codeLimit
      · -- the clear code is sent in the old width, which the decoder has not left either
        have hsends : packing.sends byte =
            [⟨packing.width, code⟩] ++ [⟨next.width, clearCode⟩] := by
          rw [hwidth, h.widened_of_full hfull, Packing.sends, hp]
          dsimp only
          rw [hfound]
          exact if_pos hfull
        have hboth := hpasses.append next.passes_clear
        rw [List.append_nil] at hboth
        rw [hsends, Packing.extend_of_full hp hfound hfull]
        exact ⟨string, [byte], {}, true, rfl, hboth, .fresh byte rfl rfl rfl rfl⟩
      · have hsends : packing.sends byte = [⟨packing.width, code⟩] := by
          rw [Packing.sends, hp]
          dsimp only
          rw [hfound]
          exact if_neg hfull
        rw [hsends]
        exact ⟨string, [byte], next, false, rfl, hpasses,
          h.assign hp hfound hfull hprevious hentries hwidth⟩

/-- At the end the decoder passes the code of the string that is pending, and expects the end code
as wide as it is sent. -/
theorem leftover (h : InStep packing unpacking string) (cleared : Bool) :
    ∃ next last, unpacking.Passes cleared packing.leftover string next last ∧
      packing.endField = ⟨next.width, endCode⟩ := by
  cases hp : packing.pending with
  | none =>
    obtain ⟨rfl, -⟩ := h.begin hp 0
    have hleft : packing.leftover = [] := by rw [Packing.leftover, hp]
    have hend : packing.endField = ⟨unpacking.width, endCode⟩ := by
      rw [Packing.endField, hp, h.width]
    rw [hleft]
    exact ⟨unpacking, cleared, Unpacking.passes_nil unpacking cleared, hend⟩
  | some code =>
    obtain ⟨next, hpasses, -, -, hwidth⟩ := h.passes_pending hp cleared
    have hleft : packing.leftover = [⟨packing.width, code⟩] := by rw [Packing.leftover, hp]
    have hend : packing.endField = ⟨next.width, endCode⟩ := by
      rw [Packing.endField, hp, hwidth]
    rw [hleft]
    exact ⟨next, false, hpasses, hend⟩

/-- The decoder passes all codes for some input but the end code, and gives what was pending and the
input. -/
theorem codesFrom (h : InStep packing unpacking string) (cleared : Bool) (input : Bytes) :
    ∃ front next last, packing.codesFrom input = front ++ [⟨next.width, endCode⟩] ∧
      unpacking.Passes cleared front (string ++ input) next last := by
  induction input generalizing packing unpacking string cleared with
  | nil =>
    obtain ⟨next, last, hpasses, hend⟩ := h.leftover cleared
    rw [List.append_nil]
    exact ⟨packing.leftover, next, last, hend ▸ rfl, hpasses⟩
  | cons byte input ih =>
    obtain ⟨given, rest, after, between, hsplit, hsent, hstep⟩ := h.extend cleared byte
    obtain ⟨front, next, last, hcodes, hpasses⟩ := ih hstep between
    have hall := hsent.append hpasses
    have hdata : string ++ byte :: input = given ++ (rest ++ input) := by
      rw [← List.append_assoc, ← hsplit, List.append_assoc]
      rfl
    refine ⟨packing.sends byte ++ front, next, last, ?_, hdata ▸ hall⟩
    rw [Packing.codesFrom, hcodes, List.append_assoc]

end InStep

/-- A new encoder is in step with a decoder that has seen the clear code. -/
theorem inStep_new : InStep {} {} [] where
  width := rfl
  fits := by decide
  free := rfl
  limit := by decide
  table := sound_empty _
  filled := nofun
  previous := nofun
  cleared := fun _ => ⟨rfl, rfl⟩
  pending := ⟨rfl, rfl⟩

/-- A decoder passes all codes of a stream but the end code, which is the last, and gives the
data. -/
theorem codes_passes (data : Bytes) :
    ∃ front next last, Packing.codes data = front ++ [⟨next.width, endCode⟩] ∧
      Unpacking.Passes {} false front data next last := by
  obtain ⟨front, next, last, hcodes, hpasses⟩ := inStep_new.codesFrom true data
  have hclear := Unpacking.passes_clear {}
  refine ⟨⟨minWidth, clearCode⟩ :: front, next, last, ?_, hclear.append hpasses⟩
  rw [Packing.codes, hcodes]
  rfl

/-- The codes of a stream decode to the data. -/
theorem codes_decodes (data : Bytes) (later : List BitField) :
    Unpacking.Decodes {} false (Packing.codes data ++ later) data := by
  obtain ⟨front, next, last, hcodes, hpasses⟩ := codes_passes data
  have hend : next.Decodes last (⟨next.width, endCode⟩ :: later) [] :=
    ⟨rfl, next.special_lt (Nat.le_refl _), rfl⟩
  have hall := hpasses.decodes hend
  rw [List.append_nil] at hall
  rw [hcodes, List.append_assoc]
  exact hall

end Lzw

end ContentCoding
