import ContentCoding.Brotli.Layer
import ContentCoding.Proofs.Format

/-!
# Brotli streams without compression decode

A meta-block that holds bytes as they are gives these bytes and leaves the decoder before
another meta-block, so any number of them may follow wherever one may. The last, empty one
ends the stream.

With these the checked packer falls back on output that decodes, wherever the search before
it has stopped. The main statement is that the engine of the coding encodes, whatever the
size of its window and of its pieces.
-/

namespace ContentCoding

namespace Brotli

/-- The number that bits spell, put onto a value with a given weight for the first bit. -/
def spelledOnto : (value weight : Nat) → List Bool → Nat
  | value, _, [] => value
  | value, weight, bit :: bits =>
    spelledOnto (if bit then value + weight else value) (2 * weight) bits

/-- The first bits of a meta-block that holds bytes as they are say how many there are. -/
theorem rawHeader_onward (window : Window) (recent : Recent) (history : Array UInt8)
    (bit0 bit1 bit2 bit3 bit4 bit5 bit6 bit7 bit8 bit9 bit10 bit11 bit12 bit13 bit14 bit15 : Bool) :
    ((Format.onward [false, false, false, bit0, bit1, bit2, bit3, bit4]
        (Format.before (Mode.metaBlock window recent) history : Format.Position format)).bind
      (Format.onward [bit5, bit6, bit7, bit8, bit9, bit10, bit11, bit12])).bind
      (Format.onward [bit13, bit14, bit15, true, false, false, false, false]) =
    some ⟨Mode.metaBlock window recent, true,
      .byte fun byte => .emit [byte] fun _ =>
        ((Scan.store (spelledOnto 0 1 [bit0, bit1, bit2, bit3] + twoTo 4 *
          (spelledOnto 0 1 [bit4, bit5, bit6, bit7] + twoTo 4 *
            (spelledOnto 0 1 [bit8, bit9, bit10, bit11] + twoTo 4 *
              (spelledOnto 0 1 [bit12, bit13, bit14, bit15] + twoTo 4 * 0))))).bind
          fun _ => .done recent).bind fun recent => .done (some (Mode.metaBlock window recent)),
      history⟩ := rfl

/-- A bit adds its weight if it is set. -/
theorem spelledOnto_cons (value weight : Nat) (bit : Bool) (bits : List Bool) :
    spelledOnto value weight (bit :: bits) =
      spelledOnto (value + weight * bit.toNat) (2 * weight) bits := by
  cases bit with
  | false => rfl
  | true => rw [spelledOnto, if_pos rfl, Bool.toNat_true, Nat.mul_one]

/-- Four bits of a number spell a digit of it. -/
theorem spelledOnto_testBit (number bit : Nat) :
    spelledOnto 0 1 [number.testBit bit, number.testBit (bit + 1), number.testBit (bit + 2),
      number.testBit (bit + 3)] = number / twoTo bit % 16 := by
  have hshift : ∀ more, number / 2 ^ (bit + more) = number / 2 ^ bit / 2 ^ more := by
    intro more
    rw [Nat.pow_add, Nat.div_div_eq_div_mul]
  have hnone : ∀ value weight, spelledOnto value weight [] = value := fun _ _ => rfl
  rw [spelledOnto_cons, spelledOnto_cons, spelledOnto_cons, spelledOnto_cons, hnone,
    Nat.toNat_testBit, Nat.toNat_testBit, Nat.toNat_testBit, Nat.toNat_testBit, hshift 1, hshift 2,
    hshift 3]
  change _ = number / 2 ^ bit % 16
  omega

/-- The bits of these bytes. -/
theorem rawHeader_bits {count : Nat} (hcount : count < 65536) :
    Format.bitsOf (UInt8.ofNat (count * 8 + twoTo 19)) =
      [false, false, false, count.testBit 0, count.testBit 1, count.testBit 2, count.testBit 3,
        count.testBit 4] ∧
    Format.bitsOf (UInt8.ofNat ((count * 8 + twoTo 19) / 256)) =
      [count.testBit 5, count.testBit 6, count.testBit 7, count.testBit 8, count.testBit 9,
        count.testBit 10, count.testBit 11, count.testBit 12] ∧
    Format.bitsOf (UInt8.ofNat ((count * 8 + twoTo 19) / 256 / 256)) =
      [count.testBit 13, count.testBit 14, count.testBit 15, true, false, false, false, false] := by
  have hpower : twoTo 19 = 524288 := rfl
  rw [hpower]
  simp only [Format.bitsOf_ofNat, Nat.testBit_eq_decide_div_mod_eq, List.cons.injEq,
    decide_eq_decide, decide_eq_true_eq, decide_eq_false_iff_not, and_true]
  refine ⟨⟨?_, ?_, ?_, ?_, ?_, ?_, ?_, ?_⟩, ⟨?_, ?_, ?_, ?_, ?_, ?_, ?_, ?_⟩,
    ?_, ?_, ?_, ?_, ?_, ?_, ?_, ?_⟩
  all_goals omega

/-- A meta-block that holds bytes as they are gives them, and another may come behind it. -/
theorem rawMetaBlock_through (window : Window) (recent : Recent) (history : Array UInt8)
    {data : Bytes} (hsome : data ≠ []) (hfits : data.length ≤ maxRaw) :
    ∃ stored, coding.through (Format.before (Mode.metaBlock window recent) history)
      (rawMetaBlock data) [] = some (data, Format.before (Mode.metaBlock window recent) stored) := by
  obtain ⟨byte, rest, rfl⟩ := List.exists_cons_of_ne_nil hsome
  have hcount : rest.length < 65536 := hfits
  obtain ⟨hfirst, hsecond, hthird⟩ := rawHeader_bits hcount
  have hheader := rawHeader_onward window recent history
    (rest.length.testBit 0) (rest.length.testBit 1) (rest.length.testBit 2) (rest.length.testBit 3)
    (rest.length.testBit 4) (rest.length.testBit 5) (rest.length.testBit 6) (rest.length.testBit 7)
    (rest.length.testBit 8) (rest.length.testBit 9) (rest.length.testBit 10)
    (rest.length.testBit 11) (rest.length.testBit 12) (rest.length.testBit 13)
    (rest.length.testBit 14) (rest.length.testBit 15)
  rw [← hfirst, ← hsecond, ← hthird, spelledOnto_testBit rest.length 0,
    spelledOnto_testBit rest.length 4, spelledOnto_testBit rest.length 8,
    spelledOnto_testBit rest.length 12] at hheader
  have hlength : rest.length / twoTo 0 % 16 + twoTo 4 * (rest.length / twoTo 4 % 16 + twoTo 4 *
      (rest.length / twoTo 8 % 16 + twoTo 4 * (rest.length / twoTo 12 % 16 + twoTo 4 * 0))) =
      rest.length := by
    change rest.length / 1 % 16 + 16 * (rest.length / 16 % 16 + 16 *
      (rest.length / 256 % 16 + 16 * (rest.length / 4096 % 16 + 16 * 0))) = rest.length
    omega
  rw [hlength] at hheader
  obtain ⟨second, hbefore, hlast⟩ := Option.bind_eq_some_iff.mp hheader
  obtain ⟨first, hstart, hmiddle⟩ := Option.bind_eq_some_iff.mp hbefore
  rw [Scan.store_bind_bind] at hlast
  obtain ⟨stored, hdata⟩ := @Format.through_store format (Mode.metaBlock window recent)
    (Mode.metaBlock window recent) (fun _ => .done (some (Mode.metaBlock window recent))) rfl
    history byte rest []
  exact ⟨stored, (Format.through_of_onward hstart _).trans
    ((Format.through_of_onward hmiddle _).trans ((Format.through_of_onward hlast _).trans hdata))⟩

/-- Any bytes may be cut into such meta-blocks. -/
theorem rawMetaBlocks_through (window : Window) (recent : Recent) (history : Array UInt8)
    (data : Bytes) :
    ∃ stored, coding.through (Format.before (Mode.metaBlock window recent) history)
      (rawMetaBlocks data) [] = some (data, Format.before (Mode.metaBlock window recent) stored) := by
  have hcut : ∀ data, data ≠ [] → rawMetaBlocks data =
      rawMetaBlock (data.take maxRaw) ++ rawMetaBlocks (data.drop maxRaw) := by
    intro data hsome
    rw [rawMetaBlocks, dif_neg hsome]
  have hnone : rawMetaBlocks [] = [] := by rw [rawMetaBlocks, dif_pos rfl]
  have hblock : ∀ (place : coding.State) data,
      (∃ history, place = Format.before (Mode.metaBlock window recent) history) → data ≠ [] →
        data.length ≤ maxRaw →
          ∃ next, coding.through place (rawMetaBlock data) [] = some (data, next) ∧
            ∃ history, next = Format.before (Mode.metaBlock window recent) history := by
    rintro _ data ⟨history, rfl⟩ hsome hfits
    obtain ⟨stored, hthrough⟩ := rawMetaBlock_through window recent history hsome hfits
    exact ⟨_, hthrough, stored, rfl⟩
  obtain ⟨next, hthrough, stored, rfl⟩ :=
    Transducer.through_cut (by decide) hnone hcut hblock data ⟨history, rfl⟩
  exact ⟨stored, hthrough⟩

/-- An empty last meta-block ends a stream. -/
theorem lastMetaBlock_toEnd (window : Window) (recent : Recent) (history : Array UInt8) :
    coding.toEnd (Format.before (Mode.metaBlock window recent) history) lastMetaBlock [] =
      some [] := rfl

/-- Whether the size of the window was all, so that a meta-block comes next. -/
def opened : Option (Bytes × coding.State) → Bool
  | some ([], ⟨.metaBlock _ _, false, _, _⟩) => true
  | _ => false

/-- Where a stream begins with the size of its window, a meta-block comes next. -/
theorem rawOpening_through {window : Nat} (hsmall : 10 ≤ window) (hlarge : window ≤ 24) :
    ∃ stated recent history, coding.through coding.start (rawOpening window) [] =
      some ([], Format.before (Mode.metaBlock stated recent) history) := by
  have hall : ∀ window < 25, 10 ≤ window →
      opened (coding.through coding.start (rawOpening window) []) = true := by decide +kernel
  have hwindow := hall window (Nat.lt_succ_of_le hlarge) hsmall
  rw [opened.eq_def] at hwindow
  split at hwindow
  · rename_i stated recent need history hthrough
    have hneed : need = format.unit (.metaBlock stated recent) :=
      Format.through_placed hthrough (fun _ => rfl) rfl
    subst hneed
    exact ⟨stated, recent, history, hthrough⟩
  · cases hwindow

/-- The decoder stands where a plain packer can go on with what it holds. -/
def Standing (window : Nat) (place : coding.State) (packing : (storing window).State)
    (held : Bytes) : Prop :=
  packing.inner.toList = held ∧
    (packing.opening = rawOpening window ∧ place = coding.start ∨
      packing.opening = [] ∧ ∃ stated recent history,
        place = Format.before (Mode.metaBlock stated recent) history)

/-- Flushing a plain packer puts out what it holds, and a meta-block comes next. -/
theorem Standing.flush {window : Nat} (hsmall : 10 ≤ window) (hlarge : window ≤ 24)
    {place : coding.State} {packing : (storing window).State} {held : Bytes}
    (h : Standing window place packing held) :
    ∃ stated recent history, coding.through place ((storing window).flush packing).1 [] =
      some (held, Format.before (Mode.metaBlock stated recent) history) := by
  obtain ⟨opening, data, inner⟩ := packing
  obtain ⟨rfl, ⟨rfl, rfl⟩ | ⟨rfl, stated, recent, history, rfl⟩⟩ := h
  · obtain ⟨stated, recent, history, hopening⟩ := rawOpening_through hsmall hlarge
    obtain ⟨stored, hblocks⟩ := rawMetaBlocks_through stated recent history inner.toList
    exact ⟨stated, recent, stored, Transducer.through_through hopening hblocks⟩
  · obtain ⟨stored, hblocks⟩ := rawMetaBlocks_through stated recent history inner.toList
    exact ⟨stated, recent, stored, hblocks⟩

/-- Behind what was flushed the packer holds nothing. -/
theorem standing_flushed {window : Nat} (packing : (storing window).State) (stated : Window)
    (recent : Recent) (history : Array UInt8) :
    Standing window (Format.before (Mode.metaBlock stated recent) history)
      ((storing window).flush packing).2 [] :=
  ⟨rfl, .inr ⟨rfl, stated, recent, history, rfl⟩⟩

/-- A decoder in front of what a plain packer holds is placed before a unit. -/
theorem Standing.placed {window : Nat} {place : coding.State} {packing : (storing window).State}
    {held : Bytes} (h : Standing window place packing held) : Format.Position.Placed place := by
  obtain ⟨-, ⟨-, rfl⟩ | ⟨-, stated, recent, history, rfl⟩⟩ := h
  · exact fun _ => rfl
  · exact fun _ => rfl

/-- A plain packer can go on wherever a meta-block may come next. -/
theorem storing_resumes {window : Nat} (hsmall : 10 ≤ window) (hlarge : window ≤ 24) :
    (storing window).Resumes coding settle (Standing window) where
  start := ⟨rfl, .inl ⟨rfl, rfl⟩⟩
  take place packing held data h := by
    obtain ⟨opening, taken, inner⟩ := packing
    obtain ⟨rfl, hplace⟩ := h
    exact ⟨Array.toList_appendList, hplace⟩
  flush place packing held h := by
    obtain ⟨stated, recent, history, hthrough⟩ := h.flush hsmall hlarge
    exact ⟨_, hthrough, standing_flushed packing stated recent history⟩
  finish place packing held h := by
    obtain ⟨stated, recent, history, hthrough⟩ := h.flush hsmall hlarge
    have hlast := lastMetaBlock_toEnd stated recent history
    have hall := Transducer.toEnd_through hthrough hlast
    have hfinish : (storing window).finish packing =
        ((storing window).flush packing).1 ++ lastMetaBlock := by
      obtain ⟨opening, data, inner⟩ := packing
      change opening ++ (rawMetaBlocks inner.toList ++ lastMetaBlock) ++ [] =
        opening ++ rawMetaBlocks inner.toList ++ lastMetaBlock
      rw [List.append_nil, List.append_assoc]
    rw [List.append_nil] at hall
    rw [hfinish]
    exact hall
  resume place packing held output next settled h hthrough hsettle := by
    obtain ⟨rfl, haccepts, hbefore⟩ :=
      Format.settled_eq_some hsettle (Format.through_placed hthrough h.placed)
    obtain ⟨mode, begun, need, history⟩ := settled
    refine ⟨rfl, ?_⟩
    cases mode with
    | opening => cases haccepts
    | metaBlock stated recent =>
      rw [hbefore]
      exact standing_flushed packing stated recent history

/-- The engine of the coding encodes, whatever the size of its window and of its pieces. -/
theorem engine_encodes {window size : Nat} (hsmall : 10 ≤ window) (hlarge : window ≤ 24)
    (hsize : 1 ≤ size) : (engine window size).Encodes coding :=
  Packer.verified_encodes (storing_resumes hsmall hlarge) (compressing window) hsize

end Brotli

end ContentCoding
