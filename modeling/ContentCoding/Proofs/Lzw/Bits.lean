import ContentCoding.Encode.BitField
import ContentCoding.Lzw.Code

/-!
# Bit queues on both sides of a stream

A list of fields spells a number, the first field in its lowest bits. On the
encoding side the bits of a queue complete bytes that have been put out: bytes
and queue spell the fields together. Pushing, draining and padding keep that up.

On the decoding side the bits of a queue come before bytes that have not been
taken, and both make one long queue. Taking bytes into the queue does not change
that one, and a code taken off the queue is taken off it as well.
-/

namespace ContentCoding

namespace BitField

/-- The number that fields spell. -/
def spell : List BitField → Nat
  | [] => 0
  | field :: fields => field.value + twoTo field.width * spell fields

/-- The width of a list of fields is that of the first and of the others. -/
theorem totalWidth_cons (field : BitField) (fields : List BitField) :
    totalWidth (field :: fields) = field.width + totalWidth fields := by
  have hall : ∀ (fields : List BitField) (start : Nat),
      fields.foldl (fun sum field => sum + field.width) start =
        start + fields.foldl (fun sum field => sum + field.width) 0 := by
    intro fields
    induction fields with
    | nil => exact fun start => rfl
    | cons field fields ih =>
      intro start
      rw [List.foldl_cons, List.foldl_cons, ih, ih (0 + field.width)]
      omega
  rw [totalWidth, totalWidth, List.foldl_cons, hall, Nat.zero_add]

/-- The width of two lists of fields is that of both. -/
theorem totalWidth_append (first second : List BitField) :
    totalWidth (first ++ second) = totalWidth first + totalWidth second := by
  induction first with
  | nil => exact (Nat.zero_add _).symm
  | cons field first ih =>
    rw [List.cons_append, totalWidth_cons, totalWidth_cons, ih, Nat.add_assoc]

/-- Two lists of fields spell what both spell, one above the other. -/
theorem spell_append (first second : List BitField) :
    spell (first ++ second) = spell first + twoTo (totalWidth first) * spell second := by
  induction first with
  | nil => exact ((Nat.zero_add _).trans (Nat.one_mul _)).symm
  | cons field first ih =>
    rw [List.cons_append, spell, spell, ih, totalWidth_cons, twoTo_add, Nat.mul_add, Nat.mul_assoc,
      Nat.add_assoc]

end BitField

/-- Bytes are written back from the number that they spell. -/
theorem Bytes.littleEndian_valueLE (bytes : Bytes) :
    littleEndian bytes.length bytes.valueLE = bytes := by
  induction bytes with
  | nil => rfl
  | cons byte bytes ih =>
    have hbyte := byte.toNat_lt
    have hhead : UInt8.ofNat (byte.toNat + 256 * valueLE bytes) = byte := by
      apply UInt8.toNat_inj.mp
      rw [UInt8.toNat_ofNat']
      omega
    have htail : (byte.toNat + 256 * valueLE bytes) / 256 = valueLE bytes := by omega
    rw [List.length_cons, littleEndian, valueLE, hhead, htail, ih]

namespace Lzw.BitQueue

/-- Bytes that were put out and the bits of the queue behind them spell fields. -/
structure Completes (held : BitQueue) (bytes : Bytes) (fields : List BitField) : Prop where
  /-- Both spell the number. -/
  value : bytes.valueLE + twoTo (8 * bytes.length) * held.value = BitField.spell fields
  /-- Both have the width. -/
  count : 8 * bytes.length + held.count = BitField.totalWidth fields
  /-- There is nothing beyond the bits of the queue. -/
  bounded : held.value < twoTo held.count

/-- The bits of a queue and of the bytes behind them. -/
def join (held : BitQueue) (bytes : Bytes) : BitQueue :=
  ⟨held.value + twoTo held.count * bytes.valueLE, held.count + 8 * bytes.length⟩

/-- The bits of bytes that were put out and of the queue behind them. -/
def behind (held : BitQueue) (sent : Bytes) : BitQueue :=
  ⟨sent.valueLE + twoTo (8 * sent.length) * held.value, 8 * sent.length + held.count⟩

/-- The bits of a queue spell fields, with zeros after the last. -/
structure Spells (bits : BitQueue) (fields : List BitField) : Prop where
  /-- They spell the number. -/
  value : bits.value = BitField.spell fields
  /-- There are enough of them. -/
  count : BitField.totalWidth fields ≤ bits.count

variable {held : BitQueue} {bytes : Bytes} {fields : List BitField} {field : BitField}

/-- A queue without bits completes nothing. -/
theorem completes_nil : Completes {} [] [] := ⟨rfl, rfl, Nat.one_pos⟩

/-- Pushing a code appends its field. -/
theorem Completes.push (h : held.Completes bytes fields) {code width : Nat}
    (hcode : code < twoTo width) :
    (held.push code width).Completes bytes (fields ++ [⟨width, code⟩]) := by
  refine ⟨?_, ?_, ?_⟩
  · rw [BitField.spell_append, ← h.value, ← h.count, BitQueue.push, BitField.spell, BitField.spell]
    rw [twoTo_add, Nat.mul_add, Nat.mul_zero, Nat.add_zero, Nat.add_assoc, Nat.mul_assoc]
    rw [Nat.mul_comm code]
  · rw [BitField.totalWidth_append, BitField.totalWidth_cons, ← h.count, BitQueue.push,
      Nat.add_assoc]
    rfl
  · have hstep : code * twoTo held.count + twoTo held.count ≤ twoTo width * twoTo held.count := by
      rw [← Nat.succ_mul]
      exact Nat.mul_le_mul_right _ hcode
    have hbound := h.bounded
    rw [BitQueue.push]
    rw [Nat.add_comm held.count, twoTo_add]
    dsimp only
    omega

/-- Padding appends a field of less than a byte, and makes the bits whole bytes. -/
theorem Completes.pad (h : held.Completes bytes fields) :
    ∃ width, width < 8 ∧ held.pad.Completes bytes (fields ++ [⟨width, 0⟩]) ∧
      held.pad.count = held.count + width ∧ 8 ∣ held.pad.count := by
  have hcount : held.count ≤ (held.count + 7) / 8 * 8 := by omega
  obtain ⟨width, hwidth⟩ := Nat.exists_eq_add_of_le hcount
  have hsame : held.pad = held.push 0 width := by
    rw [BitQueue.pad, BitQueue.push, hwidth, Nat.zero_mul, Nat.add_zero]
  refine ⟨width, by omega, hsame ▸ h.push (twoTo_pos width), hwidth, ?_⟩
  exact Nat.dvd_mul_left _ _

/-- Draining moves bytes to the output. -/
theorem Completes.drain {sent output : Bytes}
    (h : held.Completes (sent ++ output.reverse) fields) {count : Nat}
    (hcount : 8 * count ≤ held.count) :
    (held.drain count output).1.Completes (sent ++ (held.drain count output).2.reverse) fields ∧
      (held.drain count output).1.count + 8 * count = held.count := by
  induction count generalizing held output with
  | zero => exact ⟨h, rfl⟩
  | succ count ih =>
    have hbyte : (UInt8.ofNat held.value).toNat = held.value % 256 := by simp
    have hout : sent ++ (UInt8.ofNat held.value :: output).reverse =
        (sent ++ output.reverse) ++ [UInt8.ofNat held.value] := by
      rw [List.reverse_cons, List.append_assoc]
    have hsplit : 8 + (held.count - 8) = held.count := by omega
    have hnext : Completes ⟨held.value / 256, held.count - 8⟩
        (sent ++ (UInt8.ofNat held.value :: output).reverse) fields := by
      rw [hout]
      generalize sent ++ output.reverse = bytes at h
      refine ⟨?_, ?_, ?_⟩
      · have hw : twoTo (8 * (bytes ++ [UInt8.ofNat held.value]).length) =
            twoTo (8 * bytes.length) * 256 := by
          rw [List.length_append, List.length_singleton, Nat.mul_succ, Nat.add_comm, twoTo_byte,
            Nat.mul_comm]
        have hone : Bytes.valueLE [UInt8.ofNat held.value] = held.value % 256 := by
          rw [Bytes.valueLE, Bytes.valueLE, hbyte, Nat.mul_zero, Nat.add_zero]
        rw [Bytes.valueLE_append, ← h.value, hw, hone, Nat.add_assoc, Nat.mul_assoc, ← Nat.mul_add,
          Nat.mod_add_div]
      · have hall := h.count
        rw [List.length_append, List.length_singleton]
        dsimp only
        omega
      · have hbound := h.bounded
        rw [← hsplit, twoTo_byte] at hbound
        exact Nat.div_lt_of_lt_mul hbound
    obtain ⟨hrest, hleft⟩ := ih hnext (by dsimp only; omega)
    refine ⟨hrest, ?_⟩
    rw [BitQueue.drain]
    dsimp only at hleft
    omega

/-- Once all bits are drained, the bytes alone spell the fields. -/
theorem Completes.spells (h : held.Completes bytes fields) (hnone : held.count = 0) :
    Spells (join {} bytes) fields := by
  have hvalue := h.value
  have hbound := h.bounded
  have hcount := h.count
  rw [hnone] at hbound hcount
  have hzero : held.value = 0 := Nat.lt_one_iff.mp hbound
  rw [hzero, Nat.mul_zero, Nat.add_zero] at hvalue
  refine ⟨?_, ?_⟩
  · rw [← hvalue]
    exact (Nat.zero_add _).trans (Nat.one_mul _)
  · rw [join]
    dsimp only
    omega

/-- Bytes and queue together are the fields that they complete. -/
theorem Completes.behind (h : held.Completes bytes fields) :
    held.behind bytes = ⟨BitField.spell fields, BitField.totalWidth fields⟩ := by
  rw [BitQueue.behind, h.value, h.count]

/-- Behind no bytes a queue is all there is. -/
theorem behind_nil (held : BitQueue) : held.behind [] = held := by
  obtain ⟨value, count⟩ := held
  simp [BitQueue.behind, Bytes.valueLE]

/-- A code is pushed behind the bytes as it is behind the queue. -/
theorem push_behind (held : BitQueue) (code width : Nat) (sent : Bytes) :
    (held.push code width).behind sent = (held.behind sent).push code width := by
  have hvalue : sent.valueLE + twoTo (8 * sent.length) * (held.value + code * twoTo held.count) =
      sent.valueLE + twoTo (8 * sent.length) * held.value +
        code * twoTo (8 * sent.length + held.count) := by
    rw [twoTo_add, Nat.mul_add, ← Nat.add_assoc, Nat.mul_left_comm]
  rw [BitQueue.behind, push, push, BitQueue.behind]
  exact congr (congrArg mk hvalue) (Nat.add_assoc _ _ _).symm

/-- Padding does not see the bytes that were put out, since they are whole. -/
theorem pad_behind (held : BitQueue) (sent : Bytes) :
    held.pad.behind sent = (held.behind sent).pad := by
  have hcount : 8 * sent.length + (held.count + 7) / 8 * 8 =
      (8 * sent.length + held.count + 7) / 8 * 8 := by omega
  rw [BitQueue.behind, pad, pad, BitQueue.behind]
  exact congrArg (mk _) hcount

/-- Bytes behind which nothing is held are read off the bits. -/
theorem bytes_of_behind {bits : BitQueue} (hbits : held.behind bytes = bits)
    (hcount : held.count = 0) (hvalue : held.value = 0) :
    bytes = Bytes.littleEndian (bits.count / 8) bits.value := by
  subst hbits
  have hlength : (8 * bytes.length + held.count) / 8 = bytes.length := by omega
  rw [BitQueue.behind]
  dsimp only
  rw [hlength, hvalue, Nat.mul_zero, Nat.add_zero, Bytes.littleEndian_valueLE]

/-- Without bytes behind it a queue is all there is. -/
theorem join_nil (held : BitQueue) : held.join [] = held := by
  obtain ⟨value, count⟩ := held
  rfl

/-- The first byte behind a queue may as well be its last. -/
theorem join_cons (held : BitQueue) (byte : UInt8) (bytes : Bytes) :
    held.join (byte :: bytes) = (held.push byte.toNat 8).join bytes := by
  rw [join, join, push, Bytes.valueLE, List.length_cons, Nat.mul_add, ← Nat.mul_assoc, twoTo_add,
    Nat.mul_comm byte.toNat, Nat.add_assoc]
  congr 1
  dsimp only
  omega

/-- Appending bytes to a queue takes them from those behind it. -/
theorem append_join (limit : Nat) (held : BitQueue) (bytes later : Bytes) :
    (held.append limit bytes).1.join ((held.append limit bytes).2 ++ later) =
      held.join (bytes ++ later) := by
  induction limit generalizing held bytes with
  | zero => rfl
  | succ limit ih =>
    cases bytes with
    | nil => rfl
    | cons byte bytes =>
      rw [append, ih, List.cons_append, join_cons]

/-- Appending leaves no more bytes than there were. -/
theorem append_le (limit : Nat) (held : BitQueue) (bytes : Bytes) :
    (held.append limit bytes).2.length ≤ bytes.length := by
  induction limit generalizing held bytes with
  | zero => exact Nat.le_refl _
  | succ limit ih =>
    cases bytes with
    | nil => exact Nat.le_refl _
    | cons byte bytes => exact Nat.le_succ_of_le (ih _ bytes)

/-- Unless all bytes were appended, the limit was reached. -/
theorem append_full (limit : Nat) (held : BitQueue) (bytes : Bytes) :
    (held.append limit bytes).2 = [] ∨
      (held.append limit bytes).1.count = held.count + 8 * limit := by
  induction limit generalizing held bytes with
  | zero => exact .inr rfl
  | succ limit ih =>
    cases bytes with
    | nil => exact .inl rfl
    | cons byte bytes =>
      rw [append]
      refine (ih (held.push byte.toNat 8) bytes).imp id fun hfull => ?_
      rw [hfull, push]
      dsimp only
      omega

/-- A code that is taken off a queue is taken off the bits behind it as well. -/
theorem next?_join {width code : Nat} {rest : BitQueue}
    (h : held.next? width = some (code, rest)) (later : Bytes) :
    (held.join later).next? width = some (code, rest.join later) := by
  unfold next? at h ⊢
  split at h
  · cases h
  · rename_i hcount
    have hwidth : width ≤ held.count := Nat.not_lt.mp hcount
    have hall : ¬(held.join later).count < width :=
      Nat.not_lt.mpr (Nat.le_trans hwidth (Nat.le_add_right _ _))
    have hsplit : twoTo held.count = twoTo width * twoTo (held.count - width) := by
      rw [← twoTo_add, Nat.add_sub_cancel' hwidth]
    obtain ⟨rfl, rfl⟩ := Prod.mk.inj (Option.some.inj h)
    rw [if_neg hall, pop, join, join, hsplit, Nat.mul_assoc]
    rw [Nat.add_mul_mod_self_left, Nat.add_mul_div_left _ _ (twoTo_pos width),
      Nat.sub_add_comm hwidth]

/-- Without enough bits there is no code. -/
theorem next?_eq_none {width : Nat} : held.next? width = none ↔ held.count < width := by
  rw [next?]
  split <;> simp_all

/-- Taking a code takes its bits. -/
theorem next?_count {width code : Nat} {rest : BitQueue}
    (h : held.next? width = some (code, rest)) : rest.count + width = held.count := by
  unfold next? at h
  split at h
  · cases h
  · obtain ⟨rfl, rfl⟩ := Prod.mk.inj (Option.some.inj h)
    change held.count - width + width = held.count
    omega

/-- The first field that is spelled is the next code. -/
theorem Spells.next (h : held.Spells (field :: fields)) (hvalue : field.value < twoTo field.width) :
    ∃ rest, held.next? field.width = some (field.value, rest) ∧ rest.Spells fields := by
  have hcount := h.count
  have hspell := h.value
  rw [BitField.totalWidth_cons] at hcount
  rw [BitField.spell] at hspell
  refine ⟨(held.pop field.width).2, ?_, ?_, ?_⟩
  · rw [next?, if_neg (by omega), pop, hspell, Nat.add_mul_mod_self_left,
      Nat.mod_eq_of_lt hvalue]
  · rw [pop, hspell, Nat.add_mul_div_left _ _ (twoTo_pos field.width), Nat.div_eq_of_lt hvalue,
      Nat.zero_add]
  · rw [pop]
    dsimp only
    omega

end Lzw.BitQueue

end ContentCoding
