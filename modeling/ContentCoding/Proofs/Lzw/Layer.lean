import ContentCoding.Proofs.Codec
import ContentCoding.Proofs.Delivery
import ContentCoding.Proofs.Lzw.Codes
import ContentCoding.Proofs.Lzw.Decoding

/-!
# The LZW layers are a codec

An encoder carries data if what it has put out and still holds decodes to them, up
to the string that is pending. It carries what it has taken, however its output is
spilled, and once it has ended, the bytes put out are a stream of the data.

The main statement is about the layers. Each round of a write takes input or makes
the held bits fewer, and each round of finalizing gets closer to the end, so with any
scratch space and any buffer they are a codec.
-/

namespace ContentCoding.Lzw

namespace Packing

/-- The encoder as it would be if nothing had been put out and it had not been told to end. -/
def unspilled (packing : Packing) (sent : Bytes) : Packing :=
  { packing with held := packing.held.behind sent, ended := false }

/-- An encoder that takes data and puts nothing out. -/
def takeAll (packing : Packing) (data : Bytes) : Packing :=
  data.foldl (fun packing byte => (packing.extend byte).1) packing

/-- Bytes that were put out and the bits that are held decode to what comes before a pending string,
and with that string to the data. They are those that taking the data leads to. -/
def Keeps (packing : Packing) (sent data : Bytes) : Prop :=
  packing.unspilled sent = ({} : Packing).takeAll data ∧
    ∃ fields unpacking given string, data = given ++ string ∧
      InStep packing unpacking string ∧ packing.held.Completes sent fields ∧
      Unpacking.After true fields given unpacking

/-- The encoder has not been told to end, so it can take more data behind those it has. -/
def Carries (packing : Packing) (sent data : Bytes) : Prop :=
  packing.ended = false ∧ packing.Keeps sent data

/-- Bytes that were put out and the bits that are held are the whole stream of the data. They are
those that taking the data and then ending leads to. -/
def Closes (packing : Packing) (sent data : Bytes) : Prop :=
  packing.pending = some endCode ∧
    packing.unspilled sent = (({} : Packing).takeAll data).terminate ∧
    8 ∣ packing.held.count ∧ ∃ fields, packing.held.Completes sent fields ∧
      Unpacking.Decodes {} false fields data

/-- The stream that data are encoded as, whatever pieces they come in and however it is spilled. -/
def encoded (data : Bytes) : Bytes :=
  Bytes.littleEndian ((({} : Packing).takeAll data).terminate.held.count / 8)
    (({} : Packing).takeAll data).terminate.held.value

variable {packing : Packing} {sent data output : Bytes} {room : Nat}

/-- A closed stream of which nothing is held any more is the one that the data are encoded as. -/
theorem Closes.eq_encoded (h : packing.Closes sent data) (hnone : packing.held.count = 0) :
    sent = encoded data := by
  obtain ⟨-, hsame, -, fields, hbits, -⟩ := h
  have hbound := hbits.bounded
  rw [hnone] at hbound
  have hbehind : packing.held.behind sent = (({} : Packing).takeAll data).terminate.held :=
    congrArg Packing.held hsame
  exact BitQueue.bytes_of_behind hbehind hnone (Nat.lt_one_iff.mp hbound)

/-- Taking data and ending puts all codes behind the bits that are held, and fills up the byte. -/
theorem terminate_takeAll (packing : Packing) (data : Bytes) :
    (packing.takeAll data).terminate.held =
      (packing.held.pushAll (packing.codesFrom data)).pad := by
  induction data generalizing packing with
  | nil => exact packing.terminate_held
  | cons byte data ih =>
    have htake : packing.takeAll (byte :: data) = (packing.extend byte).1.takeAll data := rfl
    rw [htake, ih, extend_held, codesFrom, BitQueue.pushAll_append]

/-- The stream of some data is its codes, one right after the other. -/
theorem encoded_eq_pack (data : Bytes) : encoded data = BitField.pack (codes data) := by
  have hheld : (({} : Packing).takeAll data).terminate.held =
      (BitQueue.pushAll {} (codes data)).pad := terminate_takeAll {} data
  have hcount : (0 + BitField.totalWidth (codes data) + 7) / 8 * 8 / 8 =
      (BitField.totalWidth (codes data) + 7) / 8 := by omega
  have hvalue : 0 + twoTo 0 * BitField.spell (codes data) = BitField.spell (codes data) :=
    (Nat.zero_add _).trans (Nat.one_mul _)
  rw [encoded, hheld, BitQueue.pushAll_eq, BitQueue.pad, BitField.pack]
  dsimp only
  rw [hcount, hvalue]

/-- What has been put out makes no difference to how a byte is taken. -/
theorem unspilled_extend (packing : Packing) (sent : Bytes) (byte : UInt8) :
    ((packing.unspilled sent).extend byte).1 = (packing.extend byte).1.unspilled sent := by
  obtain ⟨table, branches, free, width, pending, held, ended⟩ := packing
  cases pending with
  | none => rfl
  | some code =>
    simp only [unspilled, extend]
    cases table[key code byte]? with
    | some longer => rfl
    | none =>
      by_cases hfull : free = codeLimit
      · simp only [send, assign, hfull, if_true, BitQueue.push_behind]
      · simp only [send, assign, hfull, if_false, BitQueue.push_behind]
        rfl

/-- Nor does it make a difference to how the stream is ended. -/
theorem unspilled_terminate (packing : Packing) (sent : Bytes) :
    (packing.unspilled sent).terminate = packing.terminate.unspilled sent := by
  obtain ⟨table, branches, free, width, pending, held, ended⟩ := packing
  cases pending with
  | none => simp only [unspilled, terminate, send, BitQueue.pad_behind, BitQueue.push_behind]
  | some code =>
    simp only [unspilled, terminate, send]
    by_cases hgrows : twoTo width ≤ free ∧ width < maxWidth
    · simp only [hgrows, and_self, if_true, BitQueue.pad_behind, BitQueue.push_behind]
    · simp only [hgrows, if_false, BitQueue.pad_behind, BitQueue.push_behind]

/-- A byte may be taken after the others. -/
theorem takeAll_concat (packing : Packing) (data : Bytes) (byte : UInt8) :
    packing.takeAll (data ++ [byte]) = ((packing.takeAll data).extend byte).1 := by
  rw [takeAll, takeAll, List.foldl_append]
  rfl

/-- A new encoder carries nothing. -/
theorem new_carries : Carries {} [] [] := by
  have hbits : (BitQueue.push {} clearCode minWidth).Completes [] [⟨minWidth, clearCode⟩] :=
    BitQueue.completes_nil.push (by decide)
  have hnone : ({} : Packing).unspilled [] = {} := by
    rw [unspilled, BitQueue.behind_nil]
  exact ⟨rfl, hnone, _, _, [], [], rfl, inStep_new, hbits, Unpacking.after_clear⟩

/-- An encoder that takes a byte carries it as well. -/
theorem Carries.extend (h : packing.Carries sent data) (byte : UInt8) :
    (packing.extend byte).1.Carries sent (data ++ [byte]) := by
  obtain ⟨hopen, hsame, fields, unpacking, given, string, rfl, hstep, hbits, hafter⟩ := h
  have htaken : (packing.extend byte).1.unspilled sent =
      ({} : Packing).takeAll (given ++ string ++ [byte]) := by
    rw [takeAll_concat, ← hsame, unspilled_extend]
  obtain ⟨more, rest, next, last, hsplit, hpasses, hnext⟩ := hstep.extend true byte
  have hdata : given ++ string ++ [byte] = given ++ more ++ rest := by
    rw [List.append_assoc, hsplit, List.append_assoc]
  have hsent : (packing.extend byte).1.held.Completes sent (fields ++ packing.sends byte) := by
    rw [extend_held]
    exact hbits.pushAll hpasses.fit
  exact ⟨(packing.extend_ended byte).trans hopen, htaken, _, next, _, rest, hdata, hnext, hsent,
    (hafter.pass hpasses).steadily⟩

/-- An end code and a padding behind what was decoded close the stream. -/
theorem close_bits {held : BitQueue} {fields : List BitField} {unpacking : Unpacking}
    {given : Bytes} {cleared : Bool} (hbits : held.Completes sent fields)
    (hafter : Unpacking.After cleared fields given unpacking) :
    8 ∣ (held.push endCode unpacking.width).pad.count ∧
      ∃ fields, (held.push endCode unpacking.width).pad.Completes sent fields ∧
        Unpacking.Decodes {} false fields given := by
  have hend := unpacking.special_lt (Nat.le_refl endCode)
  obtain ⟨width, -, hpadded, -, hwhole⟩ := (hbits.push hend).pad
  rw [List.append_assoc] at hpadded
  exact ⟨hwhole, _, hpadded, hafter.finish [⟨width, 0⟩]⟩

/-- The end code is not pending before it has been sent. -/
theorem Keeps.pending_ne (h : packing.Keeps sent data) : packing.pending ≠ some endCode := by
  obtain ⟨-, fields, unpacking, given, string, -, hstep, -⟩ := h
  intro hend
  have hnames := hstep.pending
  rw [hend] at hnames
  exact hnames.ne_end rfl

/-- An encoder that ends closes the stream of what it keeps. -/
theorem Keeps.terminate (h : packing.Keeps sent data) : packing.terminate.Closes sent data := by
  obtain ⟨hsame, fields, unpacking, given, string, rfl, hstep, hbits, hafter⟩ := h
  have hended : packing.terminate.unspilled sent =
      (({} : Packing).takeAll (given ++ string)).terminate := by
    rw [← hsame, unspilled_terminate]
  obtain ⟨next, last, hpasses, hend⟩ := hstep.leftover true
  have hheld : packing.terminate.held =
      ((packing.held.pushAll packing.leftover).push endCode next.width).pad := by
    rw [terminate_held, hend, BitQueue.pushAll_append]
    rfl
  obtain ⟨hwhole, hclosed⟩ := close_bits (hbits.pushAll hpasses.fit) (hafter.pass hpasses)
  rw [Closes, hended, hheld]
  exact ⟨rfl, rfl, hwhole, hclosed⟩

/-- Spilling moves bits to the output and changes nothing else. If it is blocked although there was
room, it has moved some. -/
structure Spills (packing : Packing) (room : Nat) (output : Bytes) (spill : Spill) : Prop where
  /-- Only the bits change. -/
  same : spill.packing = { packing with held := spill.packing.held }
  /-- What the bits completed they still complete. -/
  moved : ∀ sent fields, packing.held.Completes (sent ++ output.reverse) fields →
    spill.packing.held.Completes (sent ++ spill.output.reverse) fields
  /-- Whole bytes are moved. -/
  whole : 8 ∣ packing.held.count → 8 ∣ spill.packing.held.count
  /-- There are no more bits than before. -/
  count : spill.packing.held.count ≤ packing.held.count
  /-- A blocked spill has used up its room. -/
  blocked : spill.blocked = true → 1 ≤ room → spill.packing.held.count < packing.held.count

/-- Spilling all whole bytes spills. -/
theorem spillAll_spills (packing : Packing) (room : Nat) (output : Bytes) :
    packing.Spills room output (packing.spillAll room output) := by
  have hcount := drain_count packing.held (min (packing.held.count / 8) room) output
  rw [spillAll_eq]
  refine ⟨rfl, fun sent fields h => (h.drain (by omega)).1, fun hwhole => ?_, ?_,
    fun hblocked _ => ?_⟩
  · dsimp only
    omega
  · dsimp only
    omega
  · have hless := of_decide_eq_true hblocked
    dsimp only
    omega

/-- Spilling if a code might not fit any more spills. -/
theorem spill_spills (packing : Packing) (room : Nat) (output : Bytes) :
    packing.Spills room output (packing.spill room output) := by
  rw [spill]
  split
  · exact ⟨rfl, fun _ _ h => h, fun h => h, Nat.le_refl _, fun h => absurd h Bool.false_ne_true⟩
  · exact spillAll_spills packing room output

/-- Spilling moves what completes fields, and so makes no difference to the whole. -/
theorem Spills.unspilled {result : Spill} (h : packing.Spills room output result)
    {fields : List BitField} (hbits : packing.held.Completes (sent ++ output.reverse) fields) :
    result.packing.unspilled (sent ++ result.output.reverse) =
      packing.unspilled (sent ++ output.reverse) := by
  have hmoved := (h.moved sent fields hbits).behind
  rw [Packing.unspilled, Packing.unspilled, hmoved, hbits.behind, h.same]

/-- Spilling changes nothing about whether the encoder has been told to end. -/
theorem Spills.ended_eq {result : Spill} (h : packing.Spills room output result) :
    result.packing.ended = packing.ended := by
  rw [h.same]

/-- Nor about the string that is pending. -/
theorem Spills.pending_eq {result : Spill} (h : packing.Spills room output result) :
    result.packing.pending = packing.pending := by
  rw [h.same]

/-- Spilling keeps what is kept. -/
theorem Spills.keeps {result : Spill} (h : packing.Spills room output result)
    (hk : packing.Keeps (sent ++ output.reverse) data) :
    result.packing.Keeps (sent ++ result.output.reverse) data := by
  obtain ⟨htaken, fields, unpacking, given, string, rfl, hstep, hbits, hafter⟩ := hk
  have hunspilled := (h.unspilled hbits).trans htaken
  rw [h.same] at hunspilled ⊢
  have hsame : InStep { packing with held := result.packing.held } unpacking string :=
    ⟨hstep.width, hstep.fits, hstep.free, hstep.limit, hstep.table,
      hstep.filled, hstep.previous, hstep.cleared, hstep.pending⟩
  exact ⟨hunspilled, fields, unpacking, given, string, rfl, hsame,
    h.moved sent fields hbits, hafter⟩

/-- Spilling keeps what is carried. -/
theorem Spills.carries {result : Spill} (h : packing.Spills room output result)
    (hc : packing.Carries (sent ++ output.reverse) data) :
    result.packing.Carries (sent ++ result.output.reverse) data :=
  ⟨h.ended_eq.trans hc.1, h.keeps hc.2⟩

/-- Spilling keeps a stream closed. -/
theorem Spills.closes {result : Spill} (h : packing.Spills room output result)
    (hc : packing.Closes (sent ++ output.reverse) data) :
    result.packing.Closes (sent ++ result.output.reverse) data := by
  obtain ⟨hended, htaken, hwhole, fields, hbits, hdecodes⟩ := hc
  exact ⟨h.pending_eq.trans hended, (h.unspilled hbits).trans htaken, h.whole hwhole, fields,
    h.moved sent fields hbits, hdecodes⟩

/-- An encoder that is fed carries what it takes, which is something unless there is nothing. -/
theorem feedFrom_carries {input : Bytes} (h : packing.Carries (sent ++ output.reverse) data) :
    ∃ taken, input = taken ++ (feedFrom input packing room output).rest ∧
      (feedFrom input packing room output).packing.Carries
        (sent ++ (feedFrom input packing room output).output) (data ++ taken) ∧
      (input ≠ [] → taken ≠ []) := by
  induction input generalizing packing room output data with
  | nil =>
    refine ⟨[], rfl, ?_, fun hnone => absurd rfl hnone⟩
    rw [List.append_nil]
    exact h
  | cons byte input ih =>
    have htaken := h.extend byte
    rw [feedFrom]
    cases hextend : packing.extend byte with
    | mk after codeSent =>
      rw [hextend] at htaken
      have hmore : ∀ {packing : Packing} {room : Nat} {output : Bytes},
          packing.Carries (sent ++ output.reverse) (data ++ [byte]) →
          ∃ taken, byte :: input = taken ++ (feedFrom input packing room output).rest ∧
            (feedFrom input packing room output).packing.Carries
              (sent ++ (feedFrom input packing room output).output) (data ++ taken) ∧
            (byte :: input ≠ [] → taken ≠ []) := by
        intro packing room output hnext
        obtain ⟨taken, hinput, hcarries, -⟩ := @ih packing _ output room hnext
        rw [List.append_assoc] at hcarries
        exact ⟨byte :: taken, congrArg (byte :: ·) hinput, hcarries, fun _ => List.cons_ne_nil _ _⟩
      cases codeSent with
      | false => exact hmore htaken
      | true =>
        have hspilled := (spill_spills after room output).carries htaken
        dsimp only
        generalize after.spill room output = result at hspilled
        obtain ⟨spilled, output, room, blocked⟩ := result
        cases blocked with
        | true => exact ⟨[byte], rfl, hspilled, fun _ => List.cons_ne_nil _ _⟩
        | false =>
          have hopen : spilled.ended = false := hspilled.1
          simp only [hopen, Bool.and_false, Bool.false_eq_true, if_false]
          exact hmore hspilled

/-- An encoder that is fed with some room carries what it takes. It takes something, or else holds
fewer bits. -/
theorem feed_carries {input : Bytes} (hroom : 1 ≤ room) (hinput : input ≠ [])
    (h : packing.Carries sent data) :
    ∃ taken, input = taken ++ (packing.feed room input).rest ∧
      (packing.feed room input).packing.Carries (sent ++ (packing.feed room input).output)
        (data ++ taken) ∧
      ((packing.feed room input).rest.length < input.length ∨
        (packing.feed room input).rest.length = input.length ∧
          (packing.feed room input).packing.held.count < packing.held.count) := by
  have hspill := spill_spills packing room []
  have hstart : packing.Carries (sent ++ ([] : Bytes).reverse) data := by
    rwa [List.reverse_nil, List.append_nil]
  have hspilled := hspill.carries hstart
  cases hblocked : (packing.spill room []).blocked with
  | true =>
    rw [feed_of_blocked hblocked]
    refine ⟨[], rfl, ?_, .inr ⟨rfl, hspill.blocked hblocked hroom⟩⟩
    rw [List.append_nil]
    exact hspilled
  | false =>
    rw [feed_of_open hinput hblocked]
    generalize packing.spill room [] = result at hspilled
    obtain ⟨spilled, output, left, blocked⟩ := result
    obtain ⟨taken, hsplit, hcarries, hsome⟩ := @feedFrom_carries spilled sent data output left input
      hspilled
    refine ⟨taken, hsplit, hcarries, .inl ?_⟩
    have hlength := congrArg List.length hsplit
    have hpositive := List.length_pos_iff.mpr (hsome hinput)
    rw [List.length_append] at hlength
    dsimp only
    omega

/-- Whole bytes are all spilled unless there is too little room. -/
theorem spillAll_empties (hwhole : 8 ∣ packing.held.count)
    (h : (packing.spillAll room output).blocked = false) :
    (packing.spillAll room output).packing.held.count = 0 := by
  have hcount := drain_count packing.held (min (packing.held.count / 8) room) output
  rw [spillAll_eq] at h ⊢
  have hall := of_decide_eq_false h
  dsimp only
  omega

/-- Spilling that is not blocked leaves room or leaves no whole byte. -/
theorem spill_leaves (h : (packing.spill room output).blocked = false) :
    (packing.spill room output).room = room ∨
      (packing.spill room output).packing.held.count < 8 := by
  rw [spill] at h ⊢
  split
  · exact .inl rfl
  · rename_i hfull
    rw [if_neg hfull] at h
    have hcount := drain_count packing.held (min (packing.held.count / 8) room) output
    rw [spillAll_eq] at h ⊢
    have hall := of_decide_eq_false h
    dsimp only
    omega

/-- Ending waits for the bits that are held to be spilled. Then it sends the end code, unless that
has been done, and spills all. -/
theorem finish_eq (packing : Packing) (room : Nat) :
    packing.finish room =
      if (packing.spill room []).blocked then
        ⟨(packing.spill room []).output.reverse, [], (packing.spill room []).packing.told, .going⟩
      else (packing.spill room []).packing.told.conclude (packing.spill room []).room
        (packing.spill room []).output := by
  have htold : packing.told.spill room [] =
      ⟨(packing.spill room []).packing.told, (packing.spill room []).output,
        (packing.spill room []).room, (packing.spill room []).blocked⟩ := by
    rw [spill, spill, told_held, told_width]
    split <;> rfl
  rw [finish, feed, htold]
  generalize packing.spill room [] = result
  obtain ⟨spilled, output, left, blocked⟩ := result
  cases blocked <;> rfl

/-- Bytes are the whole stream of the data, or may become it when bits that are held follow. -/
def Ends (packing : Packing) (sent data : Bytes) : Prop :=
  packing.Keeps sent data ∨ packing.Closes sent data

/-- Spilling keeps what is kept or closed. -/
theorem Spills.ends {result : Spill} (h : packing.Spills room output result)
    (he : packing.Ends (sent ++ output.reverse) data) :
    result.packing.Ends (sent ++ result.output.reverse) data := he.imp h.keeps h.closes

/-- That the encoder is told to end changes nothing about its stream. -/
theorem Ends.told (h : packing.Ends sent data) : packing.told.Ends sent data := by
  refine h.imp_left fun hk => ?_
  obtain ⟨htaken, fields, unpacking, given, string, hdata, hstep, hbits, hafter⟩ := hk
  have hsame : InStep packing.told unpacking string :=
    ⟨hstep.width, hstep.fits, hstep.free, hstep.limit, hstep.table, hstep.filled,
      hstep.previous, hstep.cleared, hstep.pending⟩
  exact ⟨htaken, fields, unpacking, given, string, hdata, hsame, hbits, hafter⟩

/-- Sending the last codes takes no bits away, and adds two codes and a padding at most. -/
theorem terminate_count (packing : Packing) :
    packing.held.count ≤ packing.terminate.held.count ∧
      packing.terminate.held.count ≤ packing.held.count + 2 * packing.width + 8 := by
  cases hp : packing.pending with
  | none =>
    simp only [terminate, hp, send, BitQueue.push, BitQueue.pad]
    omega
  | some code =>
    simp only [terminate, hp, send, BitQueue.push, BitQueue.pad]
    split
    · dsimp only
      omega
    · dsimp only
      omega

/-- What concluding comes to. -/
theorem conclude_eq (packing : Packing) (room : Nat) (output : Bytes) {closed : Packing}
    (hclosed : closed = if packing.pending = some endCode then packing else packing.terminate) :
    packing.conclude room output =
      ⟨(closed.spillAll room output).output.reverse, [], (closed.spillAll room output).packing,
        if (closed.spillAll room output).blocked then .going else .ended⟩ := by
  rw [hclosed]
  rfl

/-- What is put out and the room that is left are the room that there was. -/
theorem spill_room (packing : Packing) (room : Nat) (output : Bytes) :
    (packing.spill room output).output.length + (packing.spill room output).room =
      output.length + room := by
  rw [spill]
  split
  · rfl
  · rw [spillAll_eq]
    dsimp only
    rw [drain_length]
    omega

/-- A call that ends the stream reports that there is more to do, or that there is not. -/
theorem finish_report (packing : Packing) (room : Nat) :
    (packing.finish room).report = .ended ∨ (packing.finish room).report = .going := by
  rw [finish_eq]
  split
  · exact .inr rfl
  · rw [conclude_eq _ _ _ rfl]
    cases (Spill.blocked _) with
    | true => exact .inr rfl
    | false => exact .inl rfl

/-- A call that ends the stream and reports that there is more to do has filled its room. It leaves
fewer bits to put out, or has only just sent the end code. -/
theorem finish_going (h : (packing.finish room).report = .going) :
    (packing.finish room).output.length = room ∧
      (1 ≤ room → (packing.finish room).packing.remaining < packing.remaining) := by
  have hspills := spill_spills packing room []
  have hpending := hspills.pending_eq
  have hfills := spill_room packing room []
  rw [List.length_nil, Nat.zero_add] at hfills
  rw [finish_eq] at h ⊢
  cases hblocked : (packing.spill room []).blocked with
  | true =>
    have hlength := (spill_blocked hblocked).1
    rw [List.length_nil, Nat.zero_add] at hlength
    rw [if_pos rfl]
    refine ⟨by rw [List.length_reverse, hlength], fun hroom => ?_⟩
    have hless := hspills.blocked hblocked hroom
    have hwidth : (packing.spill room []).packing.width = packing.width := by rw [hspills.same]
    simp only [remaining, told_pending, told_held, told_width, hpending, hwidth]
    omega
  | false =>
    have hleaves := spill_leaves hblocked
    have hcount := hspills.count
    have hwidth : (packing.spill room []).packing.width = packing.width := by rw [hspills.same]
    rw [hblocked, if_neg Bool.false_ne_true] at h
    rw [if_neg Bool.false_ne_true]
    generalize packing.spill room [] = result at h hpending hfills hleaves hcount hwidth
    obtain ⟨spilled, output, left, blocked⟩ := result
    dsimp only at h hpending hfills hleaves hcount hwidth ⊢
    generalize hclosed : (if spilled.told.pending = some endCode then spilled.told
      else spilled.told.terminate) = closed
    rw [conclude_eq _ _ _ hclosed.symm] at h ⊢
    have hstopped : (closed.spillAll left output).blocked = true := by
      by_contra hopen
      rw [if_neg hopen] at h
      cases h
    obtain ⟨hlength, hmore, hfewer, -⟩ := spillAll_blocked hstopped
    have hsame := (spillAll_spills closed left output).pending_eq
    refine ⟨by rw [List.length_reverse, hlength, hfills], fun hroom => ?_⟩
    rw [told_pending, hpending] at hclosed
    simp only [remaining, hsame]
    by_cases hsent : packing.pending = some endCode
    · rw [if_pos hsent] at hclosed
      have hend : closed.pending = some endCode := by rw [← hclosed, told_pending, hpending, hsent]
      have hheld : closed.held = spilled.held := by rw [← hclosed, told_held]
      rw [if_pos hsent, if_pos hend]
      rw [hheld] at hmore hfewer
      -- an encoder that had ended can only be stopped by room that the first spill left
      omega
    · rw [if_neg hsent] at hclosed
      have hend : closed.pending = some endCode := by
        rw [← hclosed]
        rfl
      have hgrown := spilled.told.terminate_count
      rw [hclosed, told_held, told_width] at hgrown
      rw [if_neg hsent, if_pos hend]
      omega

/-- Before the last spill the stream is closed. -/
theorem Ends.closed (h : packing.Ends sent data) :
    (if packing.pending = some endCode then packing else packing.terminate).Closes sent data := by
  rcases h with hkeeps | hcloses
  · rw [if_neg hkeeps.pending_ne]
    exact hkeeps.terminate
  · rw [if_pos hcloses.1]
    exact hcloses

/-- A call that ends the stream keeps it the one of the data. If the end is reported, nothing is
held any more. -/
theorem finish_ends (h : packing.Ends sent data) :
    (packing.finish room).packing.Ends (sent ++ (packing.finish room).output) data ∧
      ((packing.finish room).report = .ended →
        (packing.finish room).packing.Closes (sent ++ (packing.finish room).output) data ∧
          (packing.finish room).packing.held.count = 0) := by
  have hstart : packing.Ends (sent ++ ([] : Bytes).reverse) data := by
    rwa [List.reverse_nil, List.append_nil]
  have hspilled := ((spill_spills packing room []).ends hstart).told
  rw [finish_eq]
  cases (packing.spill room []).blocked with
  | true => exact ⟨hspilled, nofun⟩
  | false =>
    have hcloses := hspilled.closed
    generalize hclosed : (if (packing.spill room []).packing.told.pending = some endCode then
      (packing.spill room []).packing.told
        else (packing.spill room []).packing.told.terminate) = closed at hcloses
    rw [if_neg Bool.false_ne_true, conclude_eq _ _ _ hclosed.symm]
    have hafter := (spillAll_spills closed (packing.spill room []).room _).closes hcloses
    refine ⟨.inr hafter, fun hended => ⟨hafter, spillAll_empties hcloses.2.2.1 ?_⟩⟩
    by_contra hstopped
    rw [if_pos (by simpa using hstopped)] at hended
    cases hended

end Packing

variable {patience scratch total : Nat} {packing : Packing} {input sent data : Bytes}

/-- The rounds of a write take all of the input and hand on what is put out. -/
theorem writeRounds_hands (total : Nat) {scratch : Nat} (hscratch : 1 ≤ scratch)
    {packing : Packing} (input : Bytes) {sent data : Bytes} (h : packing.Carries sent data) :
    ∃ (after : Packing) (pieces : List Bytes),
      (∀ patience, (writeRounds patience scratch total packing input).Hands patience pieces
        (.ok total, { packing := after })) ∧
      after.Carries (sent ++ pieces.flatten) (data ++ input) := by
  by_cases hinput : input = []
  · subst hinput
    refine ⟨packing, [], fun patience => ?_, ?_⟩
    · rw [writeRounds_nil]
      exact .done _
    · rw [List.flatten_nil, List.append_nil, List.append_nil]
      exact h
  · obtain ⟨taken, hsplit, hcarries, hprogress⟩ := Packing.feed_carries hscratch hinput h
    obtain ⟨after, pieces, hlater, hall⟩ :=
      writeRounds_hands total hscratch (packing.feed scratch input).rest hcarries
    refine ⟨after, (packing.feed scratch input).output :: pieces, fun patience => ?_, ?_⟩
    · rw [writeRounds_of_ne _ _ _ _ hinput]
      refine .write ?_
      rw [if_neg (Packing.feed_effect hscratch hinput)]
      exact hlater patience
    · rw [List.append_assoc, List.append_assoc, ← hsplit] at hall
      exact hall
termination_by (input.length, packing.held.count)
decreasing_by
  rcases hprogress with hless | ⟨hsame, hless⟩
  · exact Prod.Lex.left _ _ hless
  · rw [hsame]
    exact Prod.Lex.right _ hless

/-- A round that ends the stream is the last one if the end is reported, and otherwise another round
follows. -/
theorem finishRounds_succ (patience scratch rounds : Nat) (packing : Packing) :
    finishRounds patience scratch (rounds + 1) packing =
      (Push.writeAll patience (packing.finish scratch).output).bind fun
        | .error fault =>
          .done (some (.error fault, { packing := (packing.finish scratch).packing }))
        | .ok () =>
          if (packing.finish scratch).report = .ended then
            .done (some (.ok (), ⟨(packing.finish scratch).packing, true⟩))
          else finishRounds patience scratch rounds (packing.finish scratch).packing := by
  rw [finishRounds]
  refine congrArg _ (funext fun answer => ?_)
  cases answer with
  | error fault => rfl
  | ok _ =>
    rcases packing.finish_report scratch with hreport | hreport
    · simp only [hreport, if_true]
    · simp only [hreport, reduceCtorEq, if_false]

/-- Bytes are a stream of the data, in which no clear code follows another. -/
def Streams (bytes data : Bytes) : Prop :=
  Unpacking.Steady {} false (BitQueue.join {} bytes) ∧
    Unpacking.unpack {} (BitQueue.join {} bytes) = ⟨data, none⟩

/-- The rounds of finalizing hand on the rest of the stream, which is that of the data, if there may
be enough of them. -/
theorem finishRounds_hands {scratch : Nat} (hscratch : 1 ≤ scratch) {packing : Packing}
    {sent data : Bytes} (h : packing.Ends sent data) :
    ∃ (after : WriterState) (pieces : List Bytes),
      (∀ patience rounds, packing.remaining < rounds →
        (finishRounds patience scratch rounds packing).Hands patience pieces
          (some (.ok (), after))) ∧
      Streams (sent ++ pieces.flatten) data ∧ sent ++ pieces.flatten = Packing.encoded data := by
  obtain ⟨hends, hended⟩ := @Packing.finish_ends packing sent data scratch h
  rcases packing.finish_report scratch with hdone | hmore
  · obtain ⟨hcloses, hnone⟩ := hended hdone
    have hencoded := hcloses.eq_encoded hnone
    obtain ⟨-, -, -, fields, hbits, hdecodes⟩ := hcloses
    refine ⟨⟨(packing.finish scratch).packing, true⟩, [(packing.finish scratch).output],
      fun patience rounds henough => ?_, ?_⟩
    · obtain ⟨rounds, rfl⟩ := Nat.exists_eq_succ_of_ne_zero (Nat.ne_zero_of_lt henough)
      rw [finishRounds_succ]
      refine .write ?_
      rw [if_pos hdone]
      exact .done _
    · rw [List.flatten_singleton]
      exact ⟨hdecodes.unpacks (hbits.spells hnone), hencoded⟩
  · have hless := (Packing.finish_going hmore).2 hscratch
    obtain ⟨after, pieces, hlater, hall⟩ := finishRounds_hands hscratch hends
    refine ⟨after, (packing.finish scratch).output :: pieces, fun patience rounds henough => ?_, ?_⟩
    · obtain ⟨rounds, rfl⟩ := Nat.exists_eq_succ_of_ne_zero (Nat.ne_zero_of_lt henough)
      rw [finishRounds_succ]
      refine .write ?_
      rw [if_neg (by rw [hmore]; nofun)]
      exact hlater patience rounds (by omega)
    · rw [List.append_assoc] at hall
      exact hall
termination_by packing.remaining

/-- Finalizing hands on the rest of the stream. -/
theorem finalize_hands (hscratch : 1 ≤ scratch) (h : packing.Ends sent data) :
    ∃ (after : WriterState) (pieces : List Bytes),
      (∀ patience, @Push.Hands (Except Fault Unit × WriterState) patience
        ((encoder patience scratch).finalize { packing }) pieces (.ok (), after)) ∧
      Streams (sent ++ pieces.flatten) data ∧ sent ++ pieces.flatten = Packing.encoded data := by
  obtain ⟨after, pieces, hhands, hstreams⟩ := finishRounds_hands hscratch h
  refine ⟨after, pieces, fun patience => ?_, hstreams⟩
  have henough : packing.remaining < patience + packing.remaining + 1 := by omega
  exact (hhands patience _ henough).map _

/-- The layer takes every script, and puts out the stream of its content. -/
theorem encoder_encodes (patience : Nat) (hscratch : 1 ≤ scratch) (script : List Feed)
    (h : packing.Carries sent data) :
    ∃ pieces, Feed.Proper pieces ∧ (encoder patience scratch).Writes { packing } script pieces ∧
      Streams (sent ++ Feed.content pieces) (data ++ Feed.content script) ∧
      sent ++ Feed.content pieces = Packing.encoded (data ++ Feed.content script) := by
  induction script generalizing packing sent data with
  | nil =>
    obtain ⟨after, outputs, hhands, hstreams⟩ := finalize_hands hscratch (.inl h.2)
    obtain ⟨pieces, hproper, hends, hcontent⟩ := (hhands patience).ends
    rw [← hcontent, ← List.append_nil data] at hstreams
    exact ⟨pieces, hproper, ⟨after, hends, rfl⟩, hstreams⟩
  | cons feed later ih =>
    cases feed with
    | piece input =>
      obtain ⟨after, outputs, hhands, hcarries⟩ :=
        writeRounds_hands input.length hscratch input h
      obtain ⟨pieces, hproper, hends, hcontent⟩ := (hhands patience).ends
      obtain ⟨rest, hrest, hwrites, hstreams⟩ := ih hcarries
      refine ⟨pieces ++ rest, hproper.append hrest, ⟨_, pieces, rest, rfl, hends, hwrites⟩, ?_⟩
      rw [Feed.content_append, ← List.append_assoc, hcontent, Feed.content, ← List.append_assoc]
      exact hstreams
    | flush =>
      obtain ⟨rest, hrest, hwrites, hstreams⟩ := ih h
      have hflush : ((encoder patience scratch).flush { packing }).Ends (.ok (), { packing })
          [.flush] := fun later => ⟨later, rfl, rfl, rfl⟩
      have hproper : Feed.Proper [.flush] := by
        intro data hmem
        cases List.mem_singleton.mp hmem
      exact ⟨.flush :: rest, hproper.append hrest, ⟨_, [.flush], rest, rfl, hflush, hwrites⟩,
        hstreams⟩

/-- The layer takes every script, and puts out a stream of its content. -/
theorem encoder_writes (patience : Nat) (hscratch : 1 ≤ scratch) (script : List Feed)
    (h : packing.Carries sent data) :
    ∃ pieces, Feed.Proper pieces ∧ (encoder patience scratch).Writes { packing } script pieces ∧
      Streams (sent ++ Feed.content pieces) (data ++ Feed.content script) := by
  obtain ⟨pieces, hproper, hwrites, hstreams, -⟩ := encoder_encodes patience hscratch script h
  exact ⟨pieces, hproper, hwrites, hstreams⟩

/-- A new layer has a whole stream before it. -/
theorem awaits_new {assumed : Prop} (bytes : Bytes)
    (h : assumed → Unpacking.Steady {} false (BitQueue.join {} bytes)) :
    ReaderState.Awaits {} assumed bytes (Unpacking.unpack {} (BitQueue.join {} bytes)) :=
  .inr ⟨rfl, nofun, .hungry (by decide) (fun _ => Nat.le_add_left ..) (fun _ => by decide)
    ⟨Unpacking.filled_new, h, rfl⟩⟩

/-- The layer recovers the data of a stream. -/
theorem Streams.recovers {buffer : Nat} (h : Streams sent data) (hbuffer : 1 ≤ buffer)
    (hpatience : 3 ≤ patience) : (decoder patience buffer).Recovers {} sent data := by
  have hnew := awaits_new sent fun _ : True => h.1
  rw [h.2] at hnew
  refine ⟨fun state encoded data => state.Awaits True encoded ⟨data, none⟩, ?_, hnew⟩
  intro state encoded data room hroom hawaits
  refine (read_answers (fun _ => hpatience) hbuffer hroom hawaits).mono
    fun result rest hanswers => ?_
  generalize hu : (⟨data, none⟩ : Unpacked) = unpacked at hanswers
  cases hanswers with
  | @gives bytes later state some fits awaits =>
    obtain ⟨output, fault⟩ := later
    obtain ⟨rfl, rfl⟩ := Unpacked.mk.inj hu
    refine ⟨bytes.length, ⟨fits, ?_, fun _ => List.length_pos_iff.mpr some⟩, ?_, ?_⟩
    · rw [List.length_append]
      exact Nat.le_add_right _ _
    · rw [List.take_left]
    · rw [List.drop_left]
      exact awaits
  | ends done =>
    obtain ⟨rfl, -⟩ := Unpacked.mk.inj hu
    exact ⟨0, ⟨Nat.zero_le _, Nat.le_refl _, fun hne => absurd rfl hne⟩, rfl, .inl ⟨done, rfl⟩⟩
  | fails wrong =>
    rw [← hu] at wrong
    cases wrong trivial

/-- The LZW layers are a codec, whatever the sizes of scratch space and buffer. -/
theorem codec (patience : Nat) (hscratch : 1 ≤ scratch) {readPatience buffer : Nat}
    (hbuffer : 1 ≤ buffer) (hpatience : 3 ≤ readPatience) :
    Codec (.always (encoder patience scratch) {}) (.always (decoder readPatience buffer) {}) := by
  refine ⟨encoder patience scratch, {}, ⟨rfl, rfl⟩, fun script _ => ?_⟩
  obtain ⟨pieces, hproper, hwrites, hstreams⟩ :=
    encoder_writes patience hscratch script Packing.new_carries
  exact ⟨pieces, hproper, hwrites.transcribes, decoder readPatience buffer, {}, rfl,
    hstreams.recovers hbuffer hpatience⟩

end ContentCoding.Lzw
