import ContentCoding.Proofs.Lzw.Layer

/-!
# What a call of the encoder brings about without room

Without room nothing is put out, and all that is taken is held as bits. As codes of strings get
longer by a byte with each code, and six codes of nine bits leave no place for two more, the encoder
takes sixteen bytes at most. Five it always takes. A call that ends the stream reports that there is
more to do, and does nothing about it.
-/

namespace ContentCoding.Lzw

/-- A string with a name is a byte or one that is known. -/
theorem Names.length_le {known : Array Bytes} {code most : Nat}
    {string : Bytes} (h : Names known code string) (hmost : 1 ≤ most)
    (hknown : ∀ entry ∈ known, entry.length ≤ most) : string.length ≤ most := by
  rcases h with ⟨-, rfl⟩ | ⟨-, hentry⟩
  · exact hmost
  · exact hknown string (Array.mem_of_getElem? hentry)

namespace Packing

variable {packing : Packing} {codes taken : Nat}

/-- Without room spilling all whole bytes changes nothing, and is blocked if there are any. -/
theorem spillAll_none (packing : Packing) (output : Bytes) :
    packing.spillAll 0 output = ⟨packing, output, 0, decide (0 < packing.held.count / 8)⟩ := by
  rw [spillAll_eq, Nat.min_zero]
  rfl

/-- Nor does spilling change anything that is made only if another code might not fit. -/
theorem spill_none (packing : Packing) (output : Bytes) :
    ∃ blocked, packing.spill 0 output = ⟨packing, output, 0, blocked⟩ := by
  rw [spill, spillAll_none]
  split
  · exact ⟨_, rfl⟩
  · exact ⟨_, rfl⟩

/-- Taking a byte takes no bits away. -/
theorem extend_count (packing : Packing) (byte : UInt8) :
    packing.held.count ≤ (packing.extend byte).1.held.count := by
  rw [extend_held, BitQueue.pushAll_eq]
  exact Nat.le_add_right _ _

/-- Without room an encoder that has not been told to end takes one byte after another until it
cannot start again. -/
theorem feedFrom_none (hopen : packing.ended = false) (byte : UInt8) (input : Bytes) :
    feedFrom (byte :: input) packing 0 [] =
      if (packing.extend byte).2 = true ∧ ((packing.extend byte).1.spill 0 []).blocked = true then
        ⟨[], input, (packing.extend byte).1, .going⟩
      else feedFrom input (packing.extend byte).1 0 [] := by
  have hnext := (packing.extend_ended byte).trans hopen
  obtain ⟨blocked, hspill⟩ := (packing.extend byte).1.spill_none []
  rw [feedFrom]
  generalize packing.extend byte = taken at hnext hspill
  obtain ⟨next, codeSent⟩ := taken
  dsimp only at hnext hspill
  cases codeSent with
  | false => rfl
  | true =>
    dsimp only
    rw [hspill]
    cases blocked with
    | true => rfl
    | false => simp only [hnext, Bool.and_false, Bool.false_eq_true, if_false, and_false]

/-- A call takes input likewise if the encoder can start. -/
theorem feed_open (hopen : packing.ended = false) (h : (packing.spill 0 []).blocked = false)
    (input : Bytes) : packing.feed 0 input = feedFrom input packing 0 [] := by
  obtain ⟨blocked, hspill⟩ := packing.spill_none []
  rw [hspill] at h
  obtain rfl : blocked = false := h
  rw [feed, hspill]
  simp only [hopen, Bool.and_false, Bool.false_eq_true, if_false]

/-- Without room an encoder that cannot start stays as it is, whatever it is given. -/
theorem feed_stuck (h : (packing.spill 0 []).blocked = true) (input : Bytes) :
    packing.feed 0 input = ⟨[], input, packing, .going⟩ := by
  obtain ⟨blocked, hspill⟩ := packing.spill_none []
  rw [feed_of_blocked h, hspill]
  rfl

/-- Without room a call that is given input puts nothing out and takes no bits away. It takes all of
the input unless the encoder cannot start again. -/
theorem feed_none (hopen : packing.ended = false) (input : Bytes) :
    (packing.feed 0 input).output = [] ∧
      ((packing.feed 0 input).rest = [] ∨
        ((packing.feed 0 input).packing.spill 0 []).blocked = true) ∧
      (packing.feed 0 input).packing.ended = false ∧
      packing.held.count ≤ (packing.feed 0 input).packing.held.count := by
  cases hblocked : (packing.spill 0 []).blocked with
  | true =>
    rw [feed_stuck hblocked]
    exact ⟨rfl, .inr hblocked, hopen, Nat.le_refl _⟩
  | false =>
    rw [feed_open hopen hblocked]
    clear hblocked
    induction input generalizing packing with
    | nil => exact ⟨rfl, .inl rfl, hopen, Nat.le_refl _⟩
    | cons byte input ih =>
      have hnext := (packing.extend_ended byte).trans hopen
      have hcount := packing.extend_count byte
      rw [feedFrom_none hopen]
      split
      · rename_i hstuck
        exact ⟨rfl, .inr hstuck.2, hnext, hcount⟩
      · obtain ⟨hout, hrest, hended, hmore⟩ := ih hnext
        exact ⟨hout, hrest, hended, Nat.le_trans hcount hmore⟩

/-- Without room a call that ends the stream puts nothing out. If the encoder holds a byte it
reports that there is more to do, and keeps all that it holds. -/
theorem finish_none (hholds : 8 ≤ packing.held.count) :
    (packing.finish 0).report = .going ∧ (packing.finish 0).output = [] ∧
      packing.held.count ≤ (packing.finish 0).packing.held.count := by
  obtain ⟨blocked, hspill⟩ := packing.spill_none []
  rw [finish_eq, hspill]
  cases blocked with
  | true => exact ⟨rfl, rfl, Nat.le_refl _⟩
  | false =>
    generalize hclosed : (if packing.told.pending = some endCode then packing.told
      else packing.told.terminate) = closed
    have hkeeps : packing.held.count ≤ closed.held.count := by
      rw [← hclosed]
      split
      · exact Nat.le_refl _
      · exact packing.told.terminate_count.1
    have hsome : 0 < closed.held.count / 8 := by omega
    rw [if_neg Bool.false_ne_true, conclude_eq _ _ _ hclosed.symm, spillAll_none]
    simp only [hsome, decide_true, if_true, List.reverse_nil, hkeeps, and_self]

/-! ### How much an encoder holds as bits -/

/-- The encoder holds a clear code and so many codes of strings, which are at most as long as there
have been codes, and has taken so many bytes. -/
def Gathers (packing : Packing) (codes taken : Nat) : Prop :=
  ∃ unpacking string, InStep packing unpacking string ∧
    (∀ entry ∈ unpacking.awaiting string, entry.length ≤ codes + 1) ∧
    string.length ≤ codes + 1 ∧ 2 * taken ≤ codes * (codes + 1) + 2 * string.length ∧
    packing.width = minWidth ∧ packing.free = firstFree + codes ∧
    packing.held.count = minWidth * (codes + 1)

/-- A new encoder has taken nothing. -/
theorem gathers_new : Gathers {} 0 0 :=
  ⟨{}, [], inStep_new, nofun, Nat.zero_le _, Nat.le_refl _, rfl, rfl, rfl⟩

/-- A first byte begins a string. -/
theorem Gathers.begin (h : packing.Gathers codes taken) (hp : packing.pending = none)
    (byte : UInt8) :
    Gathers { packing with pending := some byte.toNat } codes (taken + 1) := by
  obtain ⟨unpacking, string, hstep, hentries, hstring, htaken, hwidth, hfree, hcount⟩ := h
  obtain ⟨hnone, hnext⟩ := hstep.begin hp byte
  have hprevious : unpacking.previous = none := by
    have hpending := hstep.pending
    rw [hp] at hpending
    exact hpending.2
  have hsame : unpacking.awaiting [byte] = unpacking.awaiting string := by
    rw [Unpacking.awaiting, Unpacking.awaiting, hprevious]
  rw [hnone, List.length_nil] at htaken
  refine ⟨unpacking, [byte], hnext, hsame ▸ hentries, Nat.le_add_left 1 codes, ?_, hwidth, hfree,
    hcount⟩
  rw [List.length_singleton]
  omega

/-- A byte that makes a known string longer has no code of its own, and the string is no longer than
the strings that are known. -/
theorem Gathers.longer (h : packing.Gathers codes taken) {code longer : Nat} {byte : UInt8}
    (hp : packing.pending = some code) (hfound : packing.table[key code byte]? = some longer) :
    Gathers { packing with pending := some longer } codes (taken + 1) := by
  obtain ⟨unpacking, string, hstep, hentries, hstring, htaken, hwidth, hfree, hcount⟩ := h
  have hnext := hstep.longer hp hfound
  have hsame : unpacking.awaiting (string ++ [byte]) = unpacking.awaiting string := by
    have hsome := List.length_pos_iff.mpr (hstep.string_ne_nil hp)
    rw [Unpacking.awaiting, Unpacking.awaiting, List.take_append_of_le_length hsome]
  have hlength : (string ++ [byte]).length ≤ codes + 1 :=
    Names.length_le hnext.pending (Nat.le_add_left 1 codes) (hsame ▸ hentries)
  refine ⟨unpacking, string ++ [byte], hnext, hsame ▸ hentries, hlength, ?_, hwidth, hfree, hcount⟩
  rw [List.length_append, List.length_singleton]
  omega

/-- A byte behind a string that ends there takes a code, and the string with the byte becomes known.
As long as codes are few, they neither run out nor grow wider. -/
theorem Gathers.code (h : packing.Gathers codes taken) (hfew : codes ≤ 4) {code : Nat}
    {byte : UInt8} (hp : packing.pending = some code)
    (hfound : packing.table[key code byte]? = none) :
    (packing.extend byte).2 = true ∧ (packing.extend byte).1.Gathers (codes + 1) (taken + 1) := by
  obtain ⟨unpacking, string, hstep, hentries, hstring, htaken, hwidth, hfree, hcount⟩ := h
  obtain ⟨next, haccept, hprevious, hnext, hwide⟩ := hstep.accept hp
  have hlimit : firstFree + codes < codeLimit ∧ firstFree + codes ≠ twoTo minWidth := by
    have hvalues : firstFree = 258 ∧ codeLimit = 4096 ∧ twoTo minWidth = 512 := by decide
    omega
  have hroom : packing.free ≠ codeLimit := hfree ▸ Nat.ne_of_lt hlimit.1
  have hassign := hstep.assign hp hfound hroom hprevious hnext hwide
  have hknown : next.awaiting [byte] = (unpacking.awaiting string).push (string ++ [byte]) := by
    rw [Unpacking.awaiting, hprevious, hnext]
    rfl
  have hsquare : (codes + 1) * (codes + 1 + 1) = codes * (codes + 1) + 2 * (codes + 1) := by
    rw [Nat.mul_succ, Nat.succ_mul]
    omega
  have hsame : ¬(packing.free = twoTo packing.width ∧ packing.width < maxWidth) := by
    rw [hfree, hwidth]
    exact fun hgrows => hlimit.2 hgrows.1
  have hpush : (packing.held.push code packing.width).count =
      packing.held.count + packing.width := rfl
  rw [extend_of_room hp hfound hroom] at hassign ⊢
  refine ⟨rfl, next, [byte], hassign, ?_, Nat.le_add_left 1 _, ?_, ?_, ?_, ?_⟩
  · intro entry hentry
    rw [hknown] at hentry
    rcases Array.mem_push.mp hentry with hold | rfl
    · exact Nat.le_succ_of_le (hentries entry hold)
    · rw [List.length_append]
      exact Nat.succ_le_succ hstring
  · rw [List.length_singleton, hsquare]
    omega
  · dsimp only
    rw [if_neg hsame, hwidth]
  · dsimp only
    rw [hfree, Nat.add_assoc]
  · dsimp only
    rw [hpush, hcount, hwidth, Nat.mul_succ minWidth (codes + 1)]

/-- Taking a byte makes the strings longer by a byte at most, and only with a code. -/
theorem Gathers.extend (h : packing.Gathers codes taken) (hfew : codes ≤ 4) (byte : UInt8) :
    (packing.extend byte).1.Gathers
      (if (packing.extend byte).2 then codes + 1 else codes) (taken + 1) := by
  cases hp : packing.pending with
  | none =>
    have hextend : packing.extend byte = ({ packing with pending := some byte.toNat }, false) := by
      simp only [Packing.extend, hp]
    rw [hextend]
    exact h.begin hp byte
  | some code =>
    cases hfound : packing.table[key code byte]? with
    | some longer =>
      have hextend : packing.extend byte = ({ packing with pending := some longer }, false) := by
        simp only [Packing.extend, hp, hfound]
      rw [hextend]
      exact h.longer hp hfound
    | none =>
      obtain ⟨hcode, hgathers⟩ := h.code hfew hp hfound
      rw [hcode, if_pos rfl]
      exact hgathers

/-- An encoder that holds few codes can start, and one that holds six cannot. -/
theorem Gathers.blocked_iff (h : packing.Gathers codes taken) :
    (packing.spill 0 []).blocked = true ↔ 5 ≤ codes := by
  obtain ⟨-, -, -, -, -, -, hwidth, -, hcount⟩ := h
  have hnine : minWidth = 9 := rfl
  rw [spill, spillAll_none, hwidth, hcount, hnine]
  split
  · exact ⟨fun hblocked => (Bool.false_ne_true hblocked).elim, fun hmany => by omega⟩
  · simp only [decide_eq_true_eq]
    omega

/-- With four codes of strings it can. -/
theorem Gathers.open (h : packing.Gathers codes taken) (hfew : codes ≤ 4) :
    (packing.spill 0 []).blocked = false :=
  Bool.not_eq_true _ ▸ fun hblocked => absurd (h.blocked_iff.mp hblocked) (by omega)

/-- Up to four codes of strings stand for fifteen bytes at most. -/
theorem Gathers.taken_le (h : packing.Gathers codes taken) (hfew : codes ≤ 4) : taken ≤ 15 := by
  obtain ⟨-, string, -, -, hstring, htaken, -⟩ := h
  have hsquare : codes * (codes + 1) ≤ 4 * 5 := Nat.mul_le_mul hfew (Nat.succ_le_succ hfew)
  omega

/-- Without room an encoder that can start takes all of the input, or cannot start any more. It has
taken sixteen bytes at most then. -/
theorem Gathers.feed (h : packing.Gathers codes taken) (hopen : packing.ended = false)
    (hfew : codes ≤ 4) (input : Bytes) :
    ((packing.feed 0 input).rest = [] → taken + input.length ≤ 16) ∧
      (((packing.feed 0 input).packing.spill 0 []).blocked = true ∨
        (packing.feed 0 input).rest = [] ∧
          ∃ codes, codes ≤ 4 ∧ (packing.feed 0 input).packing.Gathers codes (taken + input.length)) := by
  rw [feed_open hopen (h.open hfew)]
  induction input generalizing packing codes taken with
  | nil => exact ⟨fun _ => Nat.le_succ_of_le (h.taken_le hfew), .inr ⟨rfl, codes, hfew, h⟩⟩
  | cons byte input ih =>
    have hnext := h.extend hfew byte
    have hblocked := hnext.blocked_iff
    have hfifteen := h.taken_le hfew
    have hmore : taken + (byte :: input).length = taken + 1 + input.length := by
      rw [List.length_cons]
      omega
    rw [feedFrom_none hopen, hmore]
    split
    · rename_i hstuck
      refine ⟨fun hnone => ?_, .inl hstuck.2⟩
      have hlast : input.length = 0 := congrArg List.length hnone
      omega
    · rename_i hstarts
      refine ih hnext ((packing.extend_ended byte).trans hopen) ?_
      by_cases hcode : (packing.extend byte).2 = true
      · rw [if_pos hcode] at hblocked ⊢
        have hstill : ¬5 ≤ codes + 1 := fun hmany => hstarts ⟨hcode, hblocked.mpr hmany⟩
        omega
      · rw [if_neg hcode]
        exact hfew

/-- Without room an encoder takes input that is too short for a sixth code. -/
theorem Gathers.takes (h : packing.Gathers codes taken) (hopen : packing.ended = false)
    (hfew : codes ≤ 4) {input : Bytes} (hshort : codes + input.length ≤ 5) :
    (packing.feed 0 input).rest = [] := by
  rw [feed_open hopen (h.open hfew)]
  induction input generalizing packing codes taken with
  | nil => rfl
  | cons byte input ih =>
    have hnext := h.extend hfew byte
    have hblocked := hnext.blocked_iff
    rw [List.length_cons] at hshort
    rw [feedFrom_none hopen]
    split
    · rename_i hstuck
      have hmany := hblocked.mp hstuck.2
      rw [if_pos hstuck.1] at hmany
      have hlast : input.length = 0 := by omega
      exact List.eq_nil_of_length_eq_zero hlast
    · rename_i hstarts
      refine ih hnext ((packing.extend_ended byte).trans hopen) ?_ ?_
      all_goals
        by_cases hcode : (packing.extend byte).2 = true
        · rw [if_pos hcode] at hblocked ⊢
          have hstill : ¬5 ≤ codes + 1 := fun hmany => hstarts ⟨hcode, hblocked.mpr hmany⟩
          omega
        · rw [if_neg hcode]
          omega

end Packing

end ContentCoding.Lzw
