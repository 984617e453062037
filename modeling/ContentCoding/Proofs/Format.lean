import ContentCoding.Decode.Format
import ContentCoding.Proofs.Encoding

/-!
# Units that are fed to a format

A format takes a stream byte by byte, and a unit may end within a byte or with one. What
is said here holds of every format: where a unit that only stores bytes leads, that a unit
which has not begun needs what it needs first, and how the bits of a byte that give no
output are looked at by themselves.
-/

namespace ContentCoding

namespace Scan

/-- What comes behind bytes that are stored may be done in two steps. -/
theorem store_bind_bind {α β : Type} (count : Nat) (first : Unit → Scan α) (second : α → Scan β) :
    ((store count).bind first).bind second =
      (store count).bind fun stored => (first stored).bind second := by
  induction count with
  | zero => rfl
  | succ count ih =>
    simp only [store, bind]
    rw [ih]

end Scan

namespace Format

/-- The bits of a byte are those of the number in it. -/
theorem bitsOf_ofNat (value : Nat) :
    bitsOf (UInt8.ofNat value) =
      [value.testBit 0, value.testBit 1, value.testBit 2, value.testBit 3, value.testBit 4,
        value.testBit 5, value.testBit 6, value.testBit 7] := by
  have hall : ∀ small < 256, bitsOf (UInt8.ofNat small) =
      [small.testBit 0, small.testBit 1, small.testBit 2, small.testBit 3, small.testBit 4,
        small.testBit 5, small.testBit 6, small.testBit 7] := by decide +kernel
  have hbits : ∀ bit < 8, (value % 256).testBit bit = value.testBit bit := by
    intro bit hbit
    rw [show (256 : Nat) = 2 ^ 8 from rfl, Nat.testBit_mod_two_pow]
    simp only [hbit, decide_true, Bool.true_and]
  have hsame : UInt8.ofNat value = UInt8.ofNat (value % 256) := by
    apply UInt8.toNat_inj.mp
    simp
  rw [hsame, hall _ (Nat.mod_lt _ (by decide))]
  simp only [hbits, Nat.reduceLT]

variable {format : Format} {mode next : format.Mode}

/-- Go on with the bits that are left of a byte. -/
def resume (bits : List Bool) : Transition (Position format) → Transition (Position format)
  | .running fresh place => feedBits bits place fresh
  | .finished fresh => .finished fresh.reverse
  | .failed failure => .failed failure

/-- Where a whole byte is wanted it is taken, and no bits are left. -/
theorem feed_whole (begun : Bool) (following : UInt8 → Scan (Option format.Mode))
    (history : Array UInt8) (byte : UInt8) :
    format.transducer.feed ⟨mode, begun, .byte following, history⟩ byte =
      resume [] (proceed mode 0 (following byte) ⟨history, []⟩) := rfl

/-- A unit that stores bytes gives them, and the next unit comes behind the last. -/
theorem through_store {after : Unit → Scan (Option format.Mode)}
    (hafter : after () = .done (some next)) (history : Array UInt8) (byte : UInt8)
    (data output : Bytes) :
    ∃ stored, format.transducer.through
      ⟨mode, true, .byte fun byte => .emit [byte] fun _ => (Scan.store data.length).bind after,
        history⟩ (byte :: data) output =
      some (output.reverse ++ byte :: data, before next stored) := by
  induction data generalizing byte history output with
  | nil =>
    have hfeed : feed ⟨mode, true,
        .byte fun byte => .emit [byte] fun _ => (Scan.store 0).bind after, history⟩ byte =
          .running [byte] (before next (history.push byte)) := by
      simp only [feed, proceed, Scan.advance, Scan.store, Scan.bind, hafter, Scan.Trail.append,
        List.foldl_cons, List.foldl_nil, Scan.Trail.push, List.reverse_singleton]
    have hlast : ([byte].reverseAux output).reverse = output.reverse ++ [byte] := List.reverse_cons
    exact ⟨history.push byte, (Transducer.through_cons hfeed [] output).trans
      (congrArg (fun whole => some (whole, _)) hlast)⟩
  | cons later data ih =>
    have hfeed : feed ⟨mode, true,
        .byte fun byte => .emit [byte] fun _ => (Scan.store (data.length + 1)).bind after,
        history⟩ byte =
          .running [byte] ⟨mode, true,
            .byte fun byte => .emit [byte] fun _ => (Scan.store data.length).bind after,
            history.push byte⟩ := by
      simp only [feed, proceed, Scan.advance, Scan.store, Scan.bind, Scan.Trail.append,
        List.foldl_cons, List.foldl_nil, Scan.Trail.push, List.reverse_singleton]
    obtain ⟨stored, hrest⟩ := ih (history.push byte) later (byte :: output)
    rw [List.reverse_cons, List.append_assoc] at hrest
    exact ⟨stored, (Transducer.through_cons hfeed (later :: data) output).trans hrest⟩

/-- A unit that has not begun needs what it needs first. -/
def Position.Placed (position : Position format) : Prop :=
  position.begun = false → position.need = format.unit position.mode

/-- Going on with a unit leads to such a place. -/
theorem proceed_placed {bitsLeft : Nat} {scan : Scan (Option format.Mode)} {trail : Scan.Trail}
    {fresh : Bytes} {after : Position format}
    (h : proceed mode bitsLeft scan trail = .running fresh after) : after.Placed := by
  rw [proceed] at h
  split at h
  · cases h
    exact nofun
  · cases h
    exact fun _ => rfl
  · cases h
  · cases h

/-- So do the bits of a byte. -/
theorem feedBits_placed {bits : List Bool} {position after : Position format}
    {fresh output : Bytes} (h : feedBits bits position fresh = .running output after)
    (hplaced : position.Placed) : after.Placed := by
  induction bits generalizing position fresh with
  | nil =>
    cases h
    exact hplaced
  | cons bit bits ih =>
    obtain ⟨mode, begun, need, history⟩ := position
    cases need with
    | byte following =>
      cases h
      exact hplaced
    | bit following =>
      rw [feedBits] at h
      cases hproceed : proceed mode bits.length (following bit) ⟨history, fresh⟩ with
      | running more between =>
        rw [hproceed] at h
        exact ih h (proceed_placed hproceed)
      | finished more =>
        rw [hproceed] at h
        cases h
      | failed failure =>
        rw [hproceed] at h
        cases h

/-- So does a byte. -/
theorem feed_placed {byte : UInt8} {position after : Position format} {output : Bytes}
    (h : feed position byte = .running output after) (hplaced : position.Placed) :
    after.Placed := by
  obtain ⟨mode, begun, need, history⟩ := position
  cases need with
  | byte following =>
    rw [feed] at h
    cases hproceed : proceed mode 0 (following byte) ⟨history, []⟩ with
    | running more between =>
      rw [hproceed] at h
      cases h
      exact proceed_placed hproceed
    | finished more =>
      rw [hproceed] at h
      cases h
    | failed failure =>
      rw [hproceed] at h
      cases h
  | bit following => exact feedBits_placed h hplaced

/-- So do bytes that do not end the stream. -/
theorem through_placed {bytes : Bytes} {position after : Position format} {before output : Bytes}
    (h : format.transducer.through position bytes before = some (output, after))
    (hplaced : position.Placed) : after.Placed := by
  induction bytes generalizing position before with
  | nil =>
    cases h
    exact hplaced
  | cons byte bytes ih =>
    cases hfeed : feed position byte with
    | running more between =>
      have hrest := (Transducer.through_cons hfeed bytes before).symm.trans h
      exact ih hrest (feed_placed hfeed hplaced)
    | finished more =>
      simp only [Transducer.through, transducer, hfeed, reduceCtorEq] at h
    | failed failure =>
      simp only [Transducer.through, transducer, hfeed, reduceCtorEq] at h

/-- What is taken for the place before a unit is that place. -/
theorem settled_eq_some {accepts : format.Mode → Bool} {position settled : Position format}
    (h : Format.settled accepts position = some settled) (hplaced : position.Placed) :
    settled = position ∧ accepts position.mode = true ∧
      position = before position.mode position.history := by
  obtain ⟨mode, begun, need, history⟩ := position
  rw [Format.settled] at h
  split at h
  · rename_i hcondition
    obtain ⟨haccepts, hbegun⟩ := Bool.and_eq_true_iff.mp hcondition
    obtain rfl : begun = false := by simpa using hbegun
    obtain rfl : need = format.unit mode := hplaced rfl
    cases h
    exact ⟨rfl, haccepts, rfl⟩
  · cases h

/-- Where the bits of a byte lead that give no output, if bits are wanted. -/
def onward (bits : List Bool) (position : Position format) : Option (Position format) :=
  match position.need, feedBits bits position [] with
  | .bit _, .running [] next => some next
  | _, _ => none

/-- The byte leads there. -/
theorem through_of_onward {byte : UInt8} {position next : Position format}
    (h : onward (bitsOf byte) position = some next) (rest : Bytes) :
    format.transducer.through position (byte :: rest) [] = format.transducer.through next rest [] := by
  obtain ⟨mode, begun, need, history⟩ := position
  cases need with
  | byte following => cases h
  | bit following =>
    have hfeed : format.transducer.feed ⟨mode, begun, .bit following, history⟩ byte =
        .running [] next := by
      change feedBits (bitsOf byte) ⟨mode, begun, .bit following, history⟩ [] = _
      rw [onward] at h
      split at h
      · rename_i hbits
        cases h
        exact hbits
      · cases h
    exact Transducer.through_cons hfeed rest []

end Format

end ContentCoding
