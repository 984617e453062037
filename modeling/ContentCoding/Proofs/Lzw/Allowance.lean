import ContentCoding.Proofs.Allowance
import ContentCoding.Proofs.Lzw.Decoding

/-!
# How much an LZW layer can give

A code gives a string that is at most one byte longer than the longest one before it, and takes a
bit at least. So what a decoder can still put out is bounded by the bits before it and the longest
string that it knows, and every call of it stays within that bound.

The main statement is that a layer whose patience exceeds the allowance below it turns that into
one above it, which grows with its square. Nothing is assumed of the stream: clear codes may follow
each other, and it may end or go wrong anywhere.
-/

namespace ContentCoding.Lzw

namespace Unpacking

variable {unpacking next : Unpacking} {code longest : Nat} {string : Bytes}

/-- No string that the decoder knows is longer. -/
structure Reaches (unpacking : Unpacking) (longest : Nat) : Prop where
  /-- A byte is a string. -/
  positive : 1 ≤ longest
  /-- The strings of the codes. -/
  entries : ∀ entry ∈ unpacking.entries, entry.length ≤ longest
  /-- The one of the code before. -/
  previous : ∀ previous, unpacking.previous = some previous → previous.length ≤ longest

/-- A new decoder knows no strings but bytes. -/
theorem reaches_new (hlongest : 1 ≤ longest) : Reaches {} longest := ⟨hlongest, nofun, nofun⟩

/-- The string of a code is not longer. -/
theorem Reaches.stringOf? (h : unpacking.Reaches longest)
    (hs : unpacking.stringOf? code = some string) : string.length ≤ longest := by
  unfold Unpacking.stringOf? at hs
  split at hs
  · have hbyte := Option.some.inj hs
    rw [← hbyte]
    exact h.positive
  · split at hs
    · cases hs
    · exact h.entries string (Array.mem_of_getElem? hs)

/-- The one that a code stands for after a previous string may be longer by a byte. -/
theorem Reaches.meaning? (h : unpacking.Reaches longest) {previous : Bytes}
    (hprevious : previous.length ≤ longest) (hs : unpacking.meaning? previous code = some string) :
    string.length ≤ longest + 1 := by
  unfold Unpacking.meaning? at hs
  split at hs
  · rename_i known hknown
    have hlength := h.stringOf? hknown
    have hsame := Option.some.inj hs
    rw [← hsame]
    omega
  · split at hs
    · have hsame := Option.some.inj hs
      have htake := List.length_take_le 1 previous
      rw [← hsame, List.length_append]
      omega
    · cases hs

/-- Assigning a code to a string makes no others longer. -/
theorem Reaches.assign (h : unpacking.Reaches longest) (hs : string.length ≤ longest + 1) :
    ∀ entry ∈ (unpacking.assign string).entries, entry.length ≤ longest + 1 := by
  by_cases hroom : unpacking.free < codeLimit
  · rw [assign_entries hroom]
    intro entry hentry
    cases Array.mem_push.mp hentry with
    | inl hold =>
      have := h.entries entry hold
      omega
    | inr hnew =>
      rw [hnew]
      exact hs
  · obtain ⟨entries, width, previous, narrow, wide⟩ := unpacking
    have hsame : Unpacking.assign ⟨entries, width, previous, narrow, wide⟩ string =
        ⟨entries, width, previous, narrow, wide⟩ := if_neg hroom
    rw [hsame]
    intro entry hentry
    have := h.entries entry hentry
    omega

/-- A code makes the longest string longer by a byte at most. -/
theorem Reaches.accept (h : unpacking.Reaches longest)
    (ha : unpacking.accept code = .string string next) :
    string.length ≤ longest + 1 ∧ next.Reaches (longest + 1) := by
  have hpositive : 1 ≤ longest + 1 := Nat.le_add_left 1 longest
  unfold Unpacking.accept at ha
  split at ha
  · cases ha
  split at ha
  · cases ha
  split at ha
  · split at ha
    · cases ha
    · rename_i known hknown
      cases ha
      have hlength : string.length ≤ longest + 1 := Nat.le_succ_of_le (h.stringOf? hknown)
      refine ⟨hlength, hpositive, ?_, ?_⟩
      · intro entry hentry
        exact Nat.le_succ_of_le (h.entries entry hentry)
      · intro previous hprevious
        cases hprevious
        exact hlength
  · rename_i before hbefore
    split at ha
    · cases ha
    · rename_i known hknown
      cases ha
      have hold := h.previous before hbefore
      have hlength := h.meaning? hold hknown
      refine ⟨hlength, hpositive, ?_, ?_⟩
      · refine h.assign ?_
        have htake := List.length_take_le 1 string
        rw [List.length_append]
        omega
      · intro previous hprevious
        cases hprevious
        exact hlength

end Unpacking

/-- How many bytes so many bits can give, as long as no known string is longer than that. -/
def mostOf (longest bits : Nat) : Nat := bits * (longest + bits)

/-- Fewer bits give fewer bytes. -/
theorem mostOf_mono (longest : Nat) {few many : Nat} (h : few ≤ many) :
    mostOf longest few ≤ mostOf longest many :=
  Nat.mul_le_mul h (Nat.add_le_add_left h longest)

/-- After a string that takes a bit the others give no more than is left. -/
theorem add_mostOf_le {longest few many length : Nat} (hbits : few < many)
    (hlength : length ≤ longest + 1) :
    length + mostOf (longest + 1) few ≤ mostOf longest many := by
  calc
    length + mostOf (longest + 1) few ≤ (longest + many) + few * (longest + many) := by
      refine Nat.add_le_add (by omega) (Nat.mul_le_mul_left few ?_)
      omega
    _ = (few + 1) * (longest + many) := by rw [Nat.succ_mul, Nat.add_comm]
    _ ≤ mostOf longest many := Nat.mul_le_mul_right _ hbits

/-- With so many bytes to come the decoder puts out no more than that. -/
def Decoding.Within (decoding : Decoding) (later most : Nat) : Prop :=
  ∃ longest, decoding.unpacking.Reaches longest ∧
    decoding.waiting.length + mostOf longest (decoding.held.count + 8 * later) ≤ most

/-- The output of a call and what comes after it are no more than that. -/
def Call.Within (call : Call) (later most : Nat) : Prop :=
  ∃ rest, call.output.length + rest ≤ most ∧
    call.decoding.Within (call.rest.length + later) rest

variable {unpacking next : Unpacking} {held filled left : BitQueue} {input rest bytes : Bytes}
variable {decoding : Decoding} {longest later most bits room : Nat}

/-- A new decoder puts out no more than its bits can give. -/
theorem within_new (later : Nat) : Decoding.Within {} later (mostOf 1 (8 * later)) := by
  refine ⟨1, Unpacking.reaches_new (Nat.le_refl 1), ?_⟩
  simp

/-- Fewer bytes to come give fewer. -/
theorem Decoding.Within.mono (h : decoding.Within later most) {fewer more : Nat}
    (hfewer : fewer ≤ later) (hmore : most ≤ more) : decoding.Within fewer more := by
  obtain ⟨longest, hreaches, hmost⟩ := h
  refine ⟨longest, hreaches, ?_⟩
  have hmono := mostOf_mono longest
    (Nat.add_le_add_left (Nat.mul_le_mul_left 8 hfewer) decoding.held.count)
  omega

/-- The next code gives a string out of what is left, or none. -/
theorem takeCode_within (h : unpacking.Reaches longest)
    (hbits : held.count + 8 * later ≤ bits) :
    match takeCode unpacking held with
    | .stop decoding _ => decoding.Within later (mostOf longest bits)
    | .string bytes next left =>
      bytes.length ≤ longest + 1 ∧ next.Reaches (longest + 1) ∧ left.count + 8 * later < bits := by
  have hnone : ∀ (unpacking : Unpacking) (held : BitQueue), unpacking.Reaches longest →
      held.count + 8 * later ≤ bits →
      Decoding.Within ⟨unpacking, held, []⟩ later (mostOf longest bits) := by
    intro unpacking held hreaches hle
    refine ⟨longest, hreaches, ?_⟩
    have hmono := mostOf_mono longest hle
    simp only [List.length_nil]
    omega
  unfold takeCode
  cases hn : held.next? unpacking.width with
  | none => exact hnone unpacking held h hbits
  | some taken =>
    obtain ⟨code, left⟩ := taken
    have hcount := BitQueue.next?_count hn
    have hwidth : 9 ≤ unpacking.width := unpacking.narrow
    dsimp only
    cases ha : unpacking.accept code with
    | cleared => exact hnone {} left (Unpacking.reaches_new h.positive) (by omega)
    | ended => exact hnone unpacking left h (by omega)
    | invalid =>
      refine hnone _ left ⟨h.positive, h.entries, nofun⟩ ?_
      omega
    | string bytes next =>
      obtain ⟨hlength, hreaches⟩ := h.accept ha
      exact ⟨hlength, hreaches, by omega⟩

/-- Decoding one code after another stays within what the bits can give. -/
theorem decodeCodes_within {unpacking : Unpacking} {held : BitQueue} {input output : Bytes}
    {longest room : Nat} (h : unpacking.Reaches longest)
    (hmost : output.length + mostOf longest (held.count + 8 * (input.length + later)) ≤ most) :
    (decodeCodes unpacking held input room output).Within later most := by
  cases hfilled : held.refill input with
  | mk filled rest =>
    have hbits := BitQueue.refill_bits hfilled
    have htake := @takeCode_within unpacking filled longest (rest.length + later)
      (held.count + 8 * (input.length + later)) h (by omega)
    rw [decodeCodes_eq hfilled]
    cases ht : takeCode unpacking filled with
    | stop decoding status =>
      rw [ht] at htake
      refine ⟨_, ?_, htake⟩
      rwa [List.length_reverse]
    | string bytes next left =>
      rw [ht] at htake
      obtain ⟨hlength, hreaches, hfewer⟩ := htake
      have hadd := add_mostOf_le hfewer hlength
      dsimp only
      split
      · refine ⟨_, ?_, longest + 1, hreaches, Nat.le_refl _⟩
        rw [List.length_reverse]
        dsimp only
        omega
      · have hcount := takeCode_count ht
        refine decodeCodes_within hreaches ?_
        rw [List.reverseAux_eq, List.length_append, List.length_reverse]
        omega
termination_by held.count + 8 * input.length

/-- Putting out what is waiting counts as well. -/
theorem deliver_within (h : decoding.Within (input.length + later) most) :
    (decoding.deliver input room).Within later most := by
  obtain ⟨unpacking, held, waiting⟩ := decoding
  obtain ⟨longest, hreaches, hmost⟩ := h
  dsimp only at hreaches hmost
  rw [Decoding.deliver]
  split
  · refine ⟨_, ?_, longest, hreaches, Nat.le_refl _⟩
    have hcut := congrArg List.length (List.take_append_drop room waiting)
    rw [List.length_append] at hcut
    dsimp only
    omega
  · refine decodeCodes_within hreaches ?_
    rwa [List.length_reverse]

/-- A call stays within what the decoder can give. -/
theorem decode_within (h : decoding.Within (input.length + later) most) :
    (decoding.decode input room).Within later most := by
  obtain ⟨unpacking, held, waiting⟩ := decoding
  cases hprevious : unpacking.previous with
  | some previous =>
    have hdecode : Decoding.decode ⟨unpacking, held, waiting⟩ input room =
        Decoding.deliver ⟨unpacking, held, waiting⟩ input room := by
      simp only [Decoding.decode, hprevious]
    rw [hdecode]
    exact deliver_within h
  | none =>
    obtain ⟨longest, hreaches, hmost⟩ := h
    dsimp only at hreaches hmost
    cases hfilled : (if held.count < unpacking.width then held.refill input else (held, input)) with
    | mk filled rest =>
      have hbits : filled.count + 8 * rest.length = held.count + 8 * input.length := by
        split at hfilled
        · exact BitQueue.refill_bits hfilled
        · cases hfilled
          rfl
      have htake := @takeCode_within unpacking filled longest (rest.length + later)
        (held.count + 8 * (input.length + later)) hreaches (by omega)
      simp only [Decoding.decode, hprevious, hfilled]
      cases ht : takeCode unpacking filled with
      | stop decoding status =>
        rw [ht] at htake
        refine ⟨_, ?_, htake⟩
        simp only [List.length_nil]
        omega
      | string bytes next left =>
        rw [ht] at htake
        obtain ⟨hlength, hnext, hfewer⟩ := htake
        have hadd := add_mostOf_le hfewer hlength
        refine deliver_within ⟨longest + 1, hnext, ?_⟩
        dsimp only
        omega

/-! ### The decoding layer -/

/-- Calling the decoder with what is in the buffer answers the read out of what it can give, or the
buffer is used up and nothing has been given. -/
theorem attempt_within (calm : Prop) {input : Bytes} {decoding : Decoding} {exhausted : Bool}
    (h : decoding.Within (input.length + later) most) :
    match attempt room exhausted decoding input with
    | .answered answer state => ∃ rest, Spends calm most rest answer ∧
        state.decoding.Within (state.input.length + later) rest
    | .starved decoding => exhausted = false ∧ decoding.Within later most := by
  cases hcall : decoding.decode input room with
  | mk output rest after status =>
    obtain ⟨left, hle, hafter⟩ : Call.Within ⟨output, rest, after, status⟩ later most := by
      rw [← hcall]
      exact decode_within h
    dsimp only at hle hafter
    rw [attempt, hcall]
    cases status with
    | ended => exact ⟨left, hle, hafter⟩
    | invalid => exact ⟨left, ⟨fun _ hsame => (by cases hsame), by omega⟩, hafter⟩
    | going =>
      by_cases hnone : output = []
      · subst hnone
        have hkept : after.Within (rest.length + later) most :=
          hafter.mono (Nat.le_refl _) (by omega)
        simp only [List.isEmpty_nil, Bool.not_true, Bool.false_eq_true, if_false]
        by_cases hrest : rest = []
        · subst hrest
          cases exhausted with
          | true => exact ⟨most, ⟨fun _ hsame => (by cases hsame), Nat.le_refl _⟩, hkept⟩
          | false =>
            rw [List.length_nil, Nat.zero_add] at hkept
            exact ⟨rfl, hkept⟩
        · have hmore : rest.isEmpty = false := by simpa using hrest
          simp only [hmore, Bool.false_eq_true, if_false]
          by_cases hshorter : rest.length < input.length
          · rw [dif_pos hshorter]
            exact attempt_within calm hkept
          · rw [dif_neg hshorter]
            exact ⟨most, ⟨fun _ hsame => (by cases hsame), Nat.le_refl _⟩, hkept⟩
      · have hsome : (!output.isEmpty) = true := by simpa using hnone
        simp only [hsome, if_true]
        exact ⟨left, hle, hafter⟩
termination_by input.length

/-- The layer has more patience than bytes are left below it, and can give no more than so many
bytes. -/
def ReaderState.Within (patience : Nat) (state : ReaderState) (below above : Nat) : Prop :=
  below < patience ∧ state.decoding.Within (state.input.length + below) above

/-- Reading below takes a byte per round, so that the rounds do not run out. -/
theorem readRounds_spends (calm : Prop) {patience reads below : Nat} (buffer : Nat)
    (hreads : below < reads) (hpatience : reads ≤ patience) (h : decoding.Within below most) :
    (readRounds buffer room reads decoding).Spends calm (fun result left =>
      ∃ rest, Spends calm most rest result.1 ∧ result.2.Within patience left rest) below := by
  induction reads generalizing decoding below with
  | zero => omega
  | succ reads ih =>
    intro answer rest hspends
    cases answer with
    | error fault =>
      obtain ⟨hfault, hle⟩ := hspends
      refine ⟨most, ⟨hfault, Nat.le_refl _⟩, by omega, ?_⟩
      rw [List.length_nil, Nat.zero_add]
      exact h.mono hle (Nat.le_refl _)
    | ok input =>
      have hle : input.length + rest ≤ below := hspends
      have hattempt := @attempt_within rest most room calm input decoding input.isEmpty
        (h.mono hle (Nat.le_refl _))
      dsimp only
      cases ha : attempt room input.isEmpty decoding input with
      | answered answer state =>
        rw [ha] at hattempt
        obtain ⟨left, hanswer, hstate⟩ := hattempt
        exact ⟨left, hanswer, by omega, hstate⟩
      | starved decoding =>
        rw [ha] at hattempt
        obtain ⟨hsome, hstate⟩ := hattempt
        have hlength : 1 ≤ input.length := by
          cases input with
          | nil => cases hsome
          | cons byte bytes => simp
        -- a byte less is left below than before the round
        exact ih (by omega) (by omega) hstate

/-- Every read of the layer is answered out of what it can give. -/
theorem decoder_spending (patience buffer : Nat) :
    (decoder patience buffer).Spending (ReaderState.Within patience) := by
  intro calm (state : ReaderState) below above room h
  obtain ⟨hpatience, hwithin⟩ := h
  have hread : (decoder patience buffer).read state room =
      if room = 0 || state.done then .done (.ok [], state)
      else state.serve buffer room patience := rfl
  rw [hread]
  split
  · exact ⟨above, Nat.le_of_eq (Nat.zero_add above), hpatience, hwithin⟩
  · rw [ReaderState.serve]
    split
    · rename_i hempty
      have hinput : state.input = [] := by
        simpa using (Bool.and_eq_true_iff.mp hempty).1
      rw [hinput, List.length_nil, Nat.zero_add] at hwithin
      exact readRounds_spends calm buffer hpatience (Nat.le_refl patience) hwithin
    · have hattempt := @attempt_within below above room calm state.input state.decoding
        state.exhausted hwithin
      cases ha : attempt room state.exhausted state.decoding state.input with
      | answered answer after =>
        rw [ha] at hattempt
        obtain ⟨rest, hspends, hafter⟩ := hattempt
        exact ⟨rest, hspends, hpatience, hafter⟩
      | starved decoding =>
        rw [ha] at hattempt
        exact readRounds_spends calm buffer hpatience (Nat.le_refl patience) hattempt.2

/-- A new layer with more patience than bytes are allowed below it gives no more than their bits
can. -/
theorem decoder_allows {patience below : Nat} (buffer : Nat) (hpatience : below < patience) :
    (decoder patience buffer).Allows {} below (mostOf 1 (8 * below)) := by
  refine ⟨ReaderState.Within patience, decoder_spending patience buffer, hpatience, ?_⟩
  rw [List.length_nil, Nat.zero_add]
  exact within_new below

end ContentCoding.Lzw
