import ContentCoding.Proofs.Lzw.Unpacking
import ContentCoding.Proofs.Recovery

/-!
# Reading through the LZW decoder

Before every call of the decoder a stream is before it: the bits that it holds, the
bytes in the buffer, and those that are still to be read. What the stream unpacks to
is put out call by call, in whatever pieces the bytes come and the room is, and a read
has no bytes only after the end code.

Whether an error is right is another matter. If no clear code follows another, a call
without output has taken input as long as there was any, so the numbers of bytes tell
a stream that is cut short. That there are no such codes is an assumption that all
statements carry along, and only errors depend on it.
-/

namespace ContentCoding.Lzw

namespace BitQueue

variable {held filled : BitQueue} {input rest later : Bytes}

/-- Refilling a queue moves bytes into it. -/
theorem refill_join (h : held.refill input = (filled, rest)) (later : Bytes) :
    filled.join (rest ++ later) = held.join (input ++ later) := by
  have hjoin := append_join ((64 - held.count) / 8) held input later
  rw [refill] at h
  rwa [h] at hjoin

/-- No bits are lost. -/
theorem refill_bits (h : held.refill input = (filled, rest)) :
    filled.count + 8 * rest.length = held.count + 8 * input.length := by
  have hbits := append_bits ((64 - held.count) / 8) held input
  rw [refill] at h
  rwa [h] at hbits

/-- No bytes are added. -/
theorem refill_le (h : held.refill input = (filled, rest)) : rest.length ≤ input.length := by
  have hle := append_le ((64 - held.count) / 8) held input
  rw [refill] at h
  rwa [h] at hle

/-- All bytes are moved, or there are bits for many codes. -/
theorem refill_full (h : held.refill input = (filled, rest)) : rest = [] ∨ 57 ≤ filled.count := by
  have hfull := append_full ((64 - held.count) / 8) held input
  rw [refill] at h
  rw [h] at hfull
  refine hfull.imp id fun hcount => ?_
  dsimp only at hcount
  omega

end BitQueue

namespace Unpacking

variable {unpacking : Unpacking} {held : BitQueue} {assumed : Prop} {cleared : Bool}
variable {later : Bytes} {unpacked : Unpacked}

/-- What the next code of a stream comes to when it is taken out of the bits that are held. -/
theorem Yields.take (h : unpacking.Yields assumed cleared (held.join later) unpacked) :
    match takeCode unpacking held with
    | .string bytes next left => bytes ≠ [] ∧ next.previous = some bytes ∧
        left.count + unpacking.width = held.count ∧
        ∃ rest, unpacked = rest.after bytes ∧ next.Yields assumed false (left.join later) rest
    | .stop decoding .going =>
      decoding = ⟨unpacking, held, []⟩ ∧ held.count < unpacking.width ∨
        (assumed → cleared = false) ∧ ∃ left, decoding = ⟨{}, left, []⟩ ∧
          left.count + unpacking.width = held.count ∧
            Yields {} assumed true (left.join later) unpacked
    | .stop _ .ended => unpacked = ⟨[], none⟩
    | .stop _ .invalid => unpacked = ⟨[], some invalidCode⟩ := by
  cases hn : held.next? unpacking.width with
  | none =>
    simp only [takeCode, hn]
    exact .inl ⟨trivial, BitQueue.next?_eq_none.mp hn⟩
  | some taken =>
    obtain ⟨code, left⟩ := taken
    have hcode := h.of_some (BitQueue.next?_join hn later)
    have hcount := BitQueue.next?_count hn
    cases ha : unpacking.accept code with
    | cleared =>
      rw [ha] at hcode
      simp only [takeCode, hn, ha]
      exact .inr ⟨hcode.1, left, rfl, hcount, hcode.2⟩
    | ended =>
      rw [ha] at hcode
      simpa only [takeCode, hn, ha] using hcode
    | invalid =>
      rw [ha] at hcode
      simpa only [takeCode, hn, ha] using hcode
    | string bytes next =>
      rw [ha] at hcode
      simp only [takeCode, hn, ha]
      exact ⟨hcode.1, hcode.2.1, hcount, hcode.2.2⟩

end Unpacking

/-- Between two calls a decoder has a stream before it that unpacks to something. Of that stream
some bytes are in the buffer, and others are still to be read. It is known how many reads it takes
until there is output, or it is known that there is none. -/
inductive Ready (assumed : Prop) (reads : Nat) (input later : Bytes) : Decoding → Unpacked → Prop
  /-- Output is waiting. -/
  | waiting {unpacking : Unpacking} {held : BitQueue} {string : Bytes} {unpacked : Unpacked}
      (some : unpacking.previous.isSome) (output : string ≠ [])
      (yields : unpacking.Yields assumed false (held.join (input ++ later)) unpacked) :
      Ready assumed reads input later ⟨unpacking, held, string⟩ (unpacked.after string)
  /-- There are not enough bits for a code. -/
  | hungry {unpacking : Unpacking} {held : BitQueue} {unpacked : Unpacked}
      (scarce : held.count < unpacking.width)
      (enough : assumed → 24 ≤ held.count + 8 * input.length + 8 * reads)
      (patient : assumed → 1 ≤ reads)
      (yields : unpacking.Yields assumed false (held.join (input ++ later)) unpacked) :
      Ready assumed reads input later ⟨unpacking, held, []⟩ unpacked
  /-- A clear code came last. -/
  | cleared {held : BitQueue} {unpacked : Unpacked}
      (enough : assumed → 9 ≤ held.count + 8 * input.length + 8 * reads)
      (yields : Unpacking.Yields {} assumed true (held.join (input ++ later)) unpacked) :
      Ready assumed reads input later ⟨{}, held, []⟩ unpacked

variable {assumed : Prop} {input later : Bytes} {unpacked : Unpacked} {reads room : Nat}
variable {decoding : Decoding}

/-- What a call of the decoder comes to: the stream unpacks to what it puts out and what is still
to come. -/
structure Call.Follows (assumed : Prop) (call : Call) (room : Nat) (input later : Bytes)
    (unpacked : Unpacked) : Prop where
  /-- There is room for the output. -/
  fits : call.output.length ≤ room
  /-- Input is taken and not added to. -/
  takes : call.rest.length ≤ input.length
  /-- The rest of the stream is before the decoder, unless it has ended. -/
  status : match call.status with
    | .going => ∃ rest, unpacked = rest.after call.output ∧
        Ready assumed 3 call.rest later call.decoding rest
    | .ended => unpacked = ⟨call.output, none⟩
    | .invalid => unpacked.fault = some invalidCode

/-- A round of decoding takes bytes into the queue and then one code out of it. -/
theorem decodeCodes_eq {unpacking : Unpacking} {held filled : BitQueue} {input rest : Bytes}
    (h : held.refill input = (filled, rest)) (room : Nat) (output : Bytes) :
    decodeCodes unpacking held input room output =
      match takeCode unpacking filled with
      | .stop decoding status => ⟨output.reverse, rest, decoding, status⟩
      | .string bytes next left =>
        if room < bytes.length then ⟨output.reverse, rest, ⟨next, left, bytes⟩, .going⟩
        else decodeCodes next left rest (room - bytes.length) (bytes.reverseAux output) := by
  rw [decodeCodes, h]
  dsimp only
  split <;> simp only [*]

/-- After a string the decoder decodes on, and puts the rest of its output behind the first. -/
theorem decodeCodes_follows {unpacking : Unpacking} {held : BitQueue} {input : Bytes} {room : Nat}
    {output : Bytes} {unpacked : Unpacked}
    (h : unpacking.Yields assumed false (held.join (input ++ later)) unpacked) :
    ∃ more, (decodeCodes unpacking held input room output).output = output.reverse ++ more ∧
      (decodeCodes unpacking held input room output).Follows assumed (output.length + room) input
        later (unpacked.after output.reverse) := by
  rcases hfilled : held.refill input with ⟨filled, rest⟩
  rw [← BitQueue.refill_join hfilled] at h
  have htake := h.take
  have hfits : output.reverse.length ≤ output.length + room := by
    rw [List.length_reverse]
    exact Nat.le_add_right _ _
  have hbits := BitQueue.refill_bits hfilled
  have htakes := BitQueue.refill_le hfilled
  rw [decodeCodes_eq hfilled]
  cases ht : takeCode unpacking filled with
  | stop decoding status =>
    rw [ht] at htake
    refine ⟨[], (List.append_nil _).symm, hfits, htakes, ?_⟩
    cases status with
    | ended =>
      obtain rfl : unpacked = ⟨[], none⟩ := htake
      exact Unpacked.nil_after none _
    | invalid =>
      obtain rfl : unpacked = ⟨[], some invalidCode⟩ := htake
      rfl
    | going =>
      rcases htake with ⟨rfl, hscarce⟩ | ⟨-, left, rfl, hcount, hyields⟩
      · exact ⟨unpacked, rfl, .hungry hscarce (fun _ => by omega) (fun _ => by decide) h⟩
      · exact ⟨unpacked, rfl, .cleared (fun _ => by omega) hyields⟩
  | string bytes next left =>
    rw [ht] at htake
    obtain ⟨hne, hprevious, hcount, rest', rfl, hyields⟩ := htake
    have hnext : next.previous.isSome := by rw [hprevious]; rfl
    dsimp only
    split
    · exact ⟨[], (List.append_nil _).symm, hfits, htakes, _, rfl, .waiting hnext hne hyields⟩
    · rename_i hroom
      have hwidth : 9 ≤ unpacking.width := unpacking.narrow
      have hreversed : (bytes.reverseAux output).reverse = output.reverse ++ bytes := by
        rw [List.reverseAux_eq, List.reverse_append, List.reverse_reverse]
      have hlength : (bytes.reverseAux output).length + (room - bytes.length) =
          output.length + room := by
        rw [List.reverseAux_eq, List.length_append, List.length_reverse]
        omega
      obtain ⟨more, houtput, hfollows⟩ :=
        @decodeCodes_follows next left rest (room - bytes.length) (bytes.reverseAux output) rest'
          hyields
      rw [hreversed, hlength, Unpacked.after_append] at hfollows
      rw [hreversed, List.append_assoc] at houtput
      exact ⟨bytes ++ more, houtput, hfollows.fits, Nat.le_trans hfollows.takes htakes,
        hfollows.status⟩
termination_by held.count + 8 * input.length

/-- A call without output, for which it is not the stream that is to blame. -/
structure Call.Idles (assumed : Prop) (call : Call) (reads : Nat) (input later : Bytes)
    (unpacked : Unpacked) : Prop where
  /-- The whole stream is still before the decoder. -/
  ready : Ready assumed reads call.rest later call.decoding unpacked
  /-- It is worth while to read. -/
  patient : assumed → 1 ≤ reads
  /-- The call has taken input, if there was any. -/
  takes : assumed → call.rest = [] ∨ call.rest.length < input.length
  /-- If there is no more the stream is cut short. -/
  short : assumed → input = [] → later = [] → unpacked = ⟨[], some truncated⟩

/-- A call of a decoder that is ready puts out what the stream unpacks to, or idles. -/
structure Call.Serves (assumed : Prop) (call : Call) (reads room : Nat) (input later : Bytes)
    (unpacked : Unpacked) : Prop where
  /-- What it puts out is what comes next. -/
  follows : call.Follows assumed room input later unpacked
  /-- If it puts out nothing and goes on, it idles. -/
  idles : call.status = .going → call.output = [] →
    call.Idles assumed reads input later unpacked

namespace Call.Serves

variable {rest : Bytes}

/-- A call may find the end code. -/
theorem ended (hle : rest.length ≤ input.length) :
    Call.Serves assumed ⟨[], rest, decoding, .ended⟩ reads room input later ⟨[], none⟩ :=
  ⟨⟨Nat.zero_le _, hle, rfl⟩, nofun⟩

/-- A call may find a code that cannot occur. -/
theorem invalid (hle : rest.length ≤ input.length) :
    Call.Serves assumed ⟨[], rest, decoding, .invalid⟩ reads room input later
      ⟨[], some invalidCode⟩ :=
  ⟨⟨Nat.zero_le _, hle, rfl⟩, nofun⟩

/-- A call may idle. -/
theorem idle (hle : rest.length ≤ input.length)
    (hready : Ready assumed 3 rest later decoding unpacked)
    (h : Call.Idles assumed ⟨[], rest, decoding, .going⟩ reads input later unpacked) :
    Call.Serves assumed ⟨[], rest, decoding, .going⟩ reads room input later unpacked :=
  ⟨⟨Nat.zero_le _, hle, unpacked, rfl, hready⟩, fun _ _ => h⟩

/-- A call that puts something out serves, also if it has taken input before. -/
theorem of_follows {call : Call} (hle : rest.length ≤ input.length)
    (h : call.Follows assumed room rest later unpacked) (hsome : call.output ≠ []) :
    call.Serves assumed reads room input later unpacked :=
  ⟨⟨h.fits, Nat.le_trans h.takes hle, h.status⟩, fun _ hnone => absurd hnone hsome⟩

end Call.Serves

/-- What is waiting is put out first. -/
theorem deliver_follows {unpacking : Unpacking} {held : BitQueue} {string : Bytes}
    (hsome : unpacking.previous.isSome) (hstring : string ≠ [])
    (h : unpacking.Yields assumed false (held.join (input ++ later)) unpacked) (hroom : 1 ≤ room) :
    (Decoding.deliver ⟨unpacking, held, string⟩ input room).output ≠ [] ∧
      (Decoding.deliver ⟨unpacking, held, string⟩ input room).Follows assumed room input later
        (unpacked.after string) := by
  rw [Decoding.deliver]
  split
  · rename_i hless
    have hcut := List.take_append_drop room string
    have hleft : string.drop room ≠ [] := fun hnone =>
      absurd (List.drop_eq_nil_iff.mp hnone) (Nat.not_le.mpr hless)
    refine ⟨?_, ?_, Nat.le_refl _, unpacked.after (string.drop room), ?_,
      .waiting hsome hleft h⟩
    · rw [Ne, List.take_eq_nil_iff]
      rintro (hzero | hnone)
      · omega
      · exact hstring hnone
    · exact (List.length_take_le ..)
    · rw [← Unpacked.after_append, hcut]
  · rename_i hfits
    obtain ⟨more, houtput, hfollows⟩ :=
      @decodeCodes_follows assumed later unpacking held input (room - string.length)
        string.reverse _ h
    rw [List.length_reverse, List.reverse_reverse] at hfollows
    rw [List.reverse_reverse] at houtput
    refine ⟨?_, ?_⟩
    · rw [houtput]
      exact List.append_ne_nil_of_left_ne_nil hstring _
    · rwa [Nat.add_sub_cancel' (Nat.not_lt.mp hfits)] at hfollows

/-- Bits that are not enough for a code, with nothing behind them, are a stream that is cut
short. -/
theorem Unpacking.Yields.short {unpacking : Unpacking} {filled : BitQueue} {cleared : Bool}
    (h : unpacking.Yields assumed cleared (filled.join []) unpacked)
    (scarce : filled.count < unpacking.width) : unpacked = ⟨[], some truncated⟩ := by
  rw [BitQueue.join_nil] at h
  exact h.of_none (BitQueue.next?_eq_none.mpr scarce)

/-- What a call comes to if there are not enough bits for a code. A decoder that goes on after
a string keeps the next one if there is no room for it. -/
theorem decode_hungry {unpacking : Unpacking} {held filled : BitQueue} {rest : Bytes}
    (scarce : held.count < unpacking.width) (hfilled : held.refill input = (filled, rest)) :
    Decoding.decode ⟨unpacking, held, []⟩ input room =
      match takeCode unpacking filled with
      | .stop decoding status => ⟨[], rest, decoding, status⟩
      | .string bytes next left =>
        if unpacking.previous.isSome ∧ room < bytes.length then
          ⟨[], rest, ⟨next, left, bytes⟩, .going⟩
        else Decoding.deliver ⟨next, left, bytes⟩ rest room := by
  cases hprevious : unpacking.previous with
  | none =>
    simp only [Decoding.decode, hprevious, if_pos scarce, hfilled]
    cases takeCode unpacking filled with
    | stop decoding status => rfl
    | string bytes next left => simp
  | some previous =>
    simp only [Decoding.decode, hprevious, Decoding.deliver, List.length_nil, Nat.not_lt_zero,
      if_false, Nat.sub_zero, List.reverse_nil, decodeCodes_eq hfilled]
    cases takeCode unpacking filled with
    | stop decoding status => rfl
    | string bytes next left =>
      simp only [Option.isSome_some, true_and, List.reverseAux_eq, List.append_nil]
      split
      · rfl
      · rfl

/-- Without enough bits for a code the decoder takes input, and then a code if there is one. -/
theorem hungry_serves {unpacking : Unpacking} {held : BitQueue}
    (scarce : held.count < unpacking.width)
    (enough : assumed → 24 ≤ held.count + 8 * input.length + 8 * reads)
    (patient : assumed → 1 ≤ reads)
    (h : unpacking.Yields assumed false (held.join (input ++ later)) unpacked) (hroom : 1 ≤ room)
    {call : Call} (hcall : Decoding.decode ⟨unpacking, held, []⟩ input room = call) :
    call.Serves assumed reads room input later unpacked := by
  rcases hfilled : held.refill input with ⟨filled, rest⟩
  rw [decode_hungry scarce hfilled] at hcall
  rw [← BitQueue.refill_join hfilled] at h
  have hwide : unpacking.width ≤ 12 := unpacking.wide
  have hbits := BitQueue.refill_bits hfilled
  have hfull := BitQueue.refill_full hfilled
  have hle := BitQueue.refill_le hfilled
  have htakes : rest = [] ∨ rest.length < input.length := by
    refine hfull.imp id fun hmany => ?_
    omega
  have htake := h.take
  cases ht : takeCode unpacking filled with
  | stop decoding status =>
    rw [ht] at htake hcall
    subst hcall
    cases status with
    | ended =>
      obtain rfl : unpacked = ⟨[], none⟩ := htake
      exact .ended hle
    | invalid =>
      obtain rfl : unpacked = ⟨[], some invalidCode⟩ := htake
      exact .invalid hle
    | going =>
      rcases htake with ⟨rfl, hscarce⟩ | ⟨-, left, rfl, hcount, hyields⟩
      · obtain rfl : rest = [] := hfull.resolve_right (by omega)
        rw [List.length_nil] at hbits
        refine .idle hle (.hungry hscarce (fun _ => by omega) (fun _ => by decide) h)
          ⟨.hungry hscarce (fun ha => ?_) patient h, patient, fun _ => htakes,
            fun _ _ hlater => ?_⟩
        · have := enough ha
          rw [List.length_nil]
          omega
        · rw [hlater] at h
          exact h.short hscarce
      · refine .idle hle (.cleared (fun _ => by omega) hyields)
          ⟨.cleared (fun ha => ?_) hyields, patient, fun _ => htakes, fun _ hinput _ => ?_⟩
        · have := enough ha
          dsimp only
          omega
        · -- without input there is no code to clear anything
          rw [hinput, List.length_nil] at hbits
          omega
  | string bytes next left =>
    rw [ht] at htake hcall
    obtain ⟨hne, hprevious, hcount, later', rfl, hyields⟩ := htake
    have hnext : next.previous.isSome := by rw [hprevious]; rfl
    dsimp only at hcall
    split at hcall
    · subst hcall
      refine .idle hle (.waiting hnext hne hyields)
        ⟨.waiting hnext hne hyields, patient, fun _ => htakes, fun _ hinput _ => ?_⟩
      -- without input there is no code to give a string
      rw [hinput, List.length_nil] at hbits
      omega
    · subst hcall
      obtain ⟨houtput, hfollows⟩ := deliver_follows hnext hne hyields hroom
      exact .of_follows hle hfollows houtput

/-- What a call comes to after a clear code. -/
theorem decode_cleared {held filled : BitQueue} {rest : Bytes}
    (hfilled : (if held.count < minWidth then held.refill input else (held, input)) =
      (filled, rest)) :
    Decoding.decode ⟨{}, held, []⟩ input room =
      match takeCode {} filled with
      | .stop decoding status => ⟨[], rest, decoding, status⟩
      | .string bytes next left => Decoding.deliver ⟨next, left, bytes⟩ rest room := by
  cases htaken : takeCode {} filled <;> simp only [Decoding.decode, hfilled, htaken]

/-- After a clear code the decoder takes input if it has to, and then a code if there is one. -/
theorem cleared_serves {held : BitQueue}
    (enough : assumed → 9 ≤ held.count + 8 * input.length + 8 * reads)
    (h : Unpacking.Yields {} assumed true (held.join (input ++ later)) unpacked) (hroom : 1 ≤ room)
    {call : Call} (hcall : Decoding.decode ⟨{}, held, []⟩ input room = call) :
    call.Serves assumed reads room input later unpacked := by
  rcases hfilled : (if held.count < minWidth then held.refill input else (held, input)) with
    ⟨filled, rest⟩
  rw [decode_cleared hfilled] at hcall
  have hmoved : filled.join (rest ++ later) = held.join (input ++ later) ∧
      filled.count + 8 * rest.length = held.count + 8 * input.length ∧
      rest.length ≤ input.length ∧ (filled.count < 9 → rest = []) := by
    split at hfilled
    · refine ⟨BitQueue.refill_join hfilled later, BitQueue.refill_bits hfilled,
        BitQueue.refill_le hfilled, fun hscarce => ?_⟩
      exact (BitQueue.refill_full hfilled).resolve_right (by omega)
    · rename_i hplenty
      obtain ⟨rfl, rfl⟩ := Prod.mk.inj hfilled
      exact ⟨rfl, rfl, Nat.le_refl _, fun hscarce => absurd hscarce hplenty⟩
  obtain ⟨hjoin, hbits, hle, hempty⟩ := hmoved
  rw [← hjoin] at h
  have htake := h.take
  cases ht : takeCode {} filled with
  | stop decoding status =>
    rw [ht] at htake hcall
    subst hcall
    cases status with
    | ended =>
      obtain rfl : unpacked = ⟨[], none⟩ := htake
      exact .ended hle
    | invalid =>
      obtain rfl : unpacked = ⟨[], some invalidCode⟩ := htake
      exact .invalid hle
    | going =>
      rcases htake with ⟨rfl, hscarce⟩ | ⟨hsteady, left, rfl, -, hyields⟩
      · obtain rfl := hempty hscarce
        have hnine : filled.count < 9 := hscarce
        rw [List.length_nil] at hbits
        have hmore : assumed → 1 ≤ reads := fun ha => by
          have := enough ha
          omega
        refine .idle hle (.cleared (fun _ => by omega) h)
          ⟨.cleared (fun ha => ?_) h, hmore, fun _ => .inl rfl, fun _ _ hlater => ?_⟩
        · have := enough ha
          rw [List.length_nil]
          omega
        · rw [hlater] at h
          exact h.short hscarce
      · -- a second clear code in a row, which it is assumed that there is none
        have hnone : ¬assumed := fun ha => Bool.noConfusion (hsteady ha)
        exact .idle hle (.cleared (fun ha => absurd ha hnone) hyields)
          ⟨.cleared (fun ha => absurd ha hnone) hyields, fun ha => absurd ha hnone,
            fun ha => absurd ha hnone, fun ha => absurd ha hnone⟩
  | string bytes next left =>
    rw [ht] at htake hcall
    obtain ⟨hne, hprevious, -, later', rfl, hyields⟩ := htake
    subst hcall
    obtain ⟨houtput, hfollows⟩ :=
      deliver_follows (by rw [hprevious]; rfl) hne hyields hroom
    exact .of_follows hle hfollows houtput

/-- A call of the decoder puts out the next bytes of the stream. A call without output has taken
input if there was any, and tells a stream that is cut short. -/
theorem decode_serves (h : Ready assumed reads input later decoding unpacked) (hroom : 1 ≤ room)
    {call : Call} (hcall : decoding.decode input room = call) :
    call.Serves assumed reads room input later unpacked := by
  cases h with
  | @waiting unpacking held string later' some output yields =>
    obtain ⟨previous, hprevious⟩ := Option.isSome_iff_exists.mp some
    have hdeliver : Decoding.decode ⟨unpacking, held, string⟩ input room =
        Decoding.deliver ⟨unpacking, held, string⟩ input room := by
      simp only [Decoding.decode, hprevious]
    obtain ⟨houtput, hfollows⟩ := deliver_follows some output yields hroom
    rw [← hcall, hdeliver]
    exact .of_follows (Nat.le_refl _) hfollows houtput
  | hungry scarce enough patient yields =>
    exact hungry_serves scarce enough patient yields hroom hcall
  | cleared enough yields => exact cleared_serves enough yields hroom hcall

/-! ### The decoding layer -/

/-- With more reads to come nothing gets worse. -/
theorem Ready.mono (h : Ready assumed reads input later decoding unpacked) {more : Nat}
    (hmore : assumed → reads ≤ more) : Ready assumed more input later decoding unpacked := by
  cases h with
  | waiting some output yields => exact .waiting some output yields
  | hungry scarce enough patient yields =>
    refine .hungry scarce (fun ha => ?_) (fun ha => Nat.le_trans (patient ha) (hmore ha)) yields
    have := enough ha
    have := hmore ha
    omega
  | cleared enough yields =>
    refine .cleared (fun ha => ?_) yields
    have := enough ha
    have := hmore ha
    omega

/-- A read that brings bytes brings the decoder closer to output. -/
theorem Ready.fed (h : Ready assumed (reads + 1) [] (input ++ later) decoding unpacked)
    (hinput : input ≠ []) : Ready assumed reads input later decoding unpacked := by
  have hlength := List.length_pos_iff.mpr hinput
  cases h with
  | waiting some output yields => exact .waiting some output yields
  | @hungry unpacking _ _ scarce enough patient yields =>
    have hwide : unpacking.width ≤ 12 := unpacking.wide
    rw [List.length_nil] at enough
    refine .hungry scarce (fun ha => ?_) (fun ha => ?_) yields
    all_goals
      have := enough ha
      omega
  | cleared enough yields =>
    rw [List.length_nil] at enough
    refine .cleared (fun ha => ?_) yields
    have := enough ha
    omega

/-- Between two reads the layer has a stream before it that unpacks to something. When it has
decoded the end code nothing is left. -/
def ReaderState.Awaits (state : ReaderState) (assumed : Prop) (later : Bytes)
    (unpacked : Unpacked) : Prop :=
  state.done = true ∧ unpacked = ⟨[], none⟩ ∨
    state.done = false ∧ (state.exhausted = true → state.input = [] ∧ later = []) ∧
      Ready assumed 3 state.input later state.decoding unpacked

/-- A read is answered with the next bytes, with none after the end code, or with what is wrong
with the stream, as far as that is known. -/
inductive Answers (assumed : Prop) (room : Nat) (later : Bytes) :
    Unpacked → Except Fault Bytes × ReaderState → Prop
  /-- There are more bytes. -/
  | gives {bytes : Bytes} {rest : Unpacked} {state : ReaderState} (some : bytes ≠ [])
      (fits : bytes.length ≤ room) (awaits : state.Awaits assumed later rest) :
      Answers assumed room later (rest.after bytes) (.ok bytes, state)
  /-- The end code has been decoded. -/
  | ends {state : ReaderState} (done : state.done = true) :
      Answers assumed room later ⟨[], none⟩ (.ok [], state)
  /-- Something is wrong. A stream that is cut short is found so at its end, and again after it. -/
  | fails {unpacked : Unpacked} {fault : Fault} {state : ReaderState}
      (wrong : assumed → unpacked.fault = some fault)
      (last : assumed → fault = truncated →
        unpacked.output = [] ∧ state.exhausted = true ∧ state.Awaits assumed later unpacked) :
      Answers assumed room later unpacked (.error fault, state)

/-- Calling the decoder with what is in the buffer answers the read, or it is worth while to read
below. -/
theorem attempt_answers {input : Bytes} {decoding : Decoding}
    (h : Ready assumed reads input later decoding unpacked) (hroom : 1 ≤ room) {exhausted : Bool}
    (hexhausted : exhausted = true → input = [] ∧ later = []) :
    match attempt room exhausted decoding input with
    | .answered answer state => Answers assumed room later unpacked (answer, state)
    | .starved decoding =>
      exhausted = false ∧ (assumed → 1 ≤ reads) ∧
        Ready assumed reads [] later decoding unpacked := by
  rcases hcall : decoding.decode input room with ⟨output, rest, after, status⟩
  obtain ⟨⟨hfits, hless, hstatus⟩, hidles⟩ := decode_serves h hroom hcall
  rw [attempt, hcall]
  cases status with
  | ended =>
    obtain rfl : unpacked = ⟨output, none⟩ := hstatus
    by_cases hnone : output = []
    · subst hnone
      exact .ends rfl
    · rw [← Unpacked.nil_after]
      exact .gives hnone hfits (.inl ⟨rfl, rfl⟩)
  | invalid => exact .fails (fun _ => hstatus) fun _ hfault => absurd hfault (by decide)
  | going =>
    by_cases hnone : output = []
    · subst hnone
      obtain ⟨hready, hpatient, htakes, hshort⟩ := hidles rfl rfl
      dsimp only at hready htakes
      simp only [List.isEmpty_nil, Bool.not_true, Bool.false_eq_true, if_false]
      by_cases hrest : rest = []
      · subst hrest
        simp only [List.isEmpty_nil, if_true]
        cases exhausted with
        | true =>
          obtain ⟨hinput, hlater⟩ := hexhausted rfl
          obtain ⟨left, rfl, hleft⟩ := hstatus
          have hcut := fun ha => hshort ha hinput hlater
          refine .fails (fun ha => by rw [hcut ha]) fun ha _ => ⟨by rw [hcut ha], rfl, ?_⟩
          exact .inr ⟨rfl, fun _ => ⟨rfl, hlater⟩, hleft⟩
        | false => exact ⟨rfl, hpatient, hready⟩
      · have hmore : rest.isEmpty = false := by simpa using hrest
        simp only [hmore, Bool.false_eq_true, if_false]
        by_cases hshorter : rest.length < input.length
        · rw [dif_pos hshorter]
          refine attempt_answers hready hroom fun hdone => ?_
          rw [(hexhausted hdone).1] at hshorter
          exact absurd hshorter (Nat.not_lt_zero _)
        · rw [dif_neg hshorter]
          exact .fails (fun ha => absurd ((htakes ha).resolve_left hrest) hshorter)
            fun _ hfault => absurd hfault (by decide)
    · obtain ⟨later', rfl, hready⟩ := hstatus
      have hsome : (!output.isEmpty) = true := by simpa using hnone
      simp only [hsome, if_true]
      refine .gives hnone hfits (.inr ⟨rfl, fun hdone => ?_, hready⟩)
      obtain ⟨hinput, hlater⟩ := hexhausted hdone
      rw [hinput] at hless
      exact ⟨List.length_eq_zero_iff.mp (Nat.le_zero.mp hless), hlater⟩
termination_by input.length

/-- Reading below and calling the decoder answers the read. -/
theorem readRounds_answers {buffer : Nat} (hbuffer : 1 ≤ buffer) (hroom : 1 ≤ room)
    (h : Ready assumed reads [] later decoding unpacked) (hreads : assumed → 1 ≤ reads) :
    (readRounds buffer room reads decoding).Consumes
      (fun result rest => Answers assumed room rest unpacked result) later := by
  induction reads generalizing decoding later with
  | zero =>
    have hnone := fun ha => Nat.not_succ_le_zero 0 (hreads ha)
    exact .fails (fun ha => (hnone ha).elim) fun ha _ => (hnone ha).elim
  | succ reads ih =>
    refine ⟨hbuffer, fun given hgiven => ?_⟩
    dsimp only
    cases hinput : later.take given with
    | nil =>
      -- the reader below has nothing more, so this is the last round
      have hnone : later = [] := by
        by_contra hsome
        have := hgiven.2.2 hsome
        rcases List.take_eq_nil_iff.mp hinput with hzero | hnil
        · omega
        · exact hsome hnil
      subst hnone
      have hanswers := attempt_answers h hroom fun _ : true = true => ⟨rfl, rfl⟩
      rw [List.drop_nil, List.isEmpty_nil]
      cases ha : attempt room true decoding [] with
      | answered answer state =>
        rw [ha] at hanswers
        exact hanswers
      | starved decoding =>
        rw [ha] at hanswers
        cases hanswers.1
    | cons byte bytes =>
      have hsplit : byte :: bytes ++ later.drop given = later := by
        rw [← hinput, List.take_append_drop]
      rw [← hsplit] at h
      have hanswers := attempt_answers (h.fed (List.cons_ne_nil _ _)) hroom
        fun hdone : false = true => absurd hdone nofun
      rw [List.isEmpty_cons]
      cases ha : attempt room false decoding (byte :: bytes) with
      | answered answer state =>
        rw [ha] at hanswers
        exact hanswers
      | starved decoding =>
        rw [ha] at hanswers
        obtain ⟨-, hpatient, hready⟩ := hanswers
        exact ih hready hpatient

/-- The layer answers every read. That it may read below three times matters only if it is assumed
that no clear code follows another. -/
theorem read_answers {patience buffer : Nat} (hpatience : assumed → 3 ≤ patience)
    (hbuffer : 1 ≤ buffer) (hroom : 1 ≤ room) {state : ReaderState}
    (h : state.Awaits assumed later unpacked) :
    ((decoder patience buffer).read state room).Consumes
      (fun result rest => Answers assumed room rest unpacked result) later := by
  obtain ⟨decoding, input, exhausted, done⟩ := state
  have hzero : ¬room = 0 := Nat.one_le_iff_ne_zero.mp hroom
  rcases h with ⟨hdone, rfl⟩ | ⟨hopen, hexhausted, hready⟩
  · obtain rfl : done = true := hdone
    simp only [decoder, hzero, decide_false, Bool.or_true, if_true]
    exact .ends rfl
  · obtain rfl : done = false := hopen
    have hpatient := hready.mono hpatience
    simp only [decoder, hzero, decide_false, Bool.or_false, Bool.false_eq_true, if_false]
    rw [ReaderState.serve]
    dsimp only at hexhausted hready hpatient ⊢
    split
    · rename_i hempty
      obtain rfl : input = [] := by
        simpa using (Bool.and_eq_true_iff.mp hempty).1
      exact readRounds_answers hbuffer hroom hpatient fun ha =>
        Nat.le_trans (by decide) (hpatience ha)
    · have hanswers := attempt_answers hpatient hroom hexhausted
      cases ha : attempt room exhausted decoding input with
      | answered answer state =>
        rw [ha] at hanswers
        exact hanswers
      | starved decoding =>
        rw [ha] at hanswers
        exact readRounds_answers hbuffer hroom hanswers.2.2 hanswers.2.1

end ContentCoding.Lzw
