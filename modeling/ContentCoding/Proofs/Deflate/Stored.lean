import ContentCoding.Deflate.Layer
import ContentCoding.Proofs.Format

/-!
# Deflate data decode

A stored block gives the bytes in it and leaves the decoder before another block, so any number of
them may follow wherever a block may. The last, empty one ends the data.

With these the checked packer falls back on output that decodes, wherever the search before it has
stopped. The main statement is that the data of every compression level decode to what was taken,
however it was cut and wherever it was flushed.
-/

namespace ContentCoding.Deflate

/-- What comes of the last byte before the data of a stored block, behind the number of bytes and the
first byte of its complement. -/
def storedBody (first second third fourth : UInt8) : Scan (Option Mode) :=
  ((Scan.require (Bytes.valueLE [first, second] + Bytes.valueLE [third, fourth] = 65535)
    corrupt).bind fun _ => Scan.store (Bytes.valueLE [first, second])).bind
      fun _ => .done (some .head)

/-- The bytes before that lead there. -/
theorem storedHead_through (history : Array UInt8) (first second third : UInt8) :
    coding.through (Format.before Mode.head history) [0, first, second, third] [] =
      some ([], ⟨Mode.head, true, .byte (storedBody first second third), history⟩) := rfl

/-- Two bytes hold the number of bytes of a stored block. -/
theorem valueLE_pair {value : Nat} (hfits : value ≤ maxStored) :
    Bytes.valueLE [UInt8.ofNat value, UInt8.ofNat (value / 256)] = value := by
  have hless : value < twoTo (8 * 2) := Nat.lt_succ_of_le hfits
  exact (Bytes.valueLE_littleEndian 2 value).trans (Nat.mod_eq_of_lt hless)

/-- Where the number and its complement fit, the data are stored. -/
theorem storedBody_eq {count : Nat} (hfits : count ≤ maxStored) :
    storedBody (UInt8.ofNat count) (UInt8.ofNat (count / 256)) (UInt8.ofNat (maxStored - count))
        (UInt8.ofNat ((maxStored - count) / 256)) =
      (Scan.store count).bind fun _ => .done (some .head) := by
  have hsum : count + (maxStored - count) = 65535 := Nat.add_sub_cancel' hfits
  rw [storedBody, valueLE_pair hfits, valueLE_pair (Nat.sub_le _ _), decide_eq_true hsum]
  rfl

/-- A stored block gives its bytes, and another block may come behind it. -/
theorem storedBlock_through (history : Array UInt8) {data : Bytes} (hsome : data ≠ [])
    (hfits : data.length ≤ maxStored) :
    ∃ stored, coding.through (Format.before Mode.head history) (storedBlock false data) [] =
      some (data, Format.before Mode.head stored) := by
  obtain ⟨byte, rest, rfl⟩ := List.exists_cons_of_ne_nil hsome
  obtain ⟨count, hcount⟩ : ∃ count, count = (byte :: rest).length := ⟨_, rfl⟩
  rw [← hcount] at hfits
  have hblock : storedBlock false (byte :: rest) =
      [0, UInt8.ofNat count, UInt8.ofNat (count / 256), UInt8.ofNat (maxStored - count)] ++
        UInt8.ofNat ((maxStored - count) / 256) :: byte :: rest := by
    rw [hcount]
    rfl
  have hhead := storedHead_through history (UInt8.ofNat count) (UInt8.ofNat (count / 256))
    (UInt8.ofNat (maxStored - count))
  have hfeed : coding.feed ⟨Mode.head, true, .byte (storedBody (UInt8.ofNat count)
      (UInt8.ofNat (count / 256)) (UInt8.ofNat (maxStored - count))), history⟩
      (UInt8.ofNat ((maxStored - count) / 256)) =
      .running [] ⟨Mode.head, true,
        .byte fun byte => .emit [byte] fun _ =>
          (Scan.store rest.length).bind fun _ => .done (some .head),
        history⟩ := by
    refine (Format.feed_whole true _ history _).trans ?_
    rw [storedBody_eq hfits, hcount]
    rfl
  obtain ⟨stored, hdata⟩ := @Format.through_store format Mode.head Mode.head
    (fun _ => .done (some .head)) rfl history byte rest []
  rw [hblock, Transducer.through_append hhead]
  exact ⟨stored, (Transducer.through_cons hfeed (byte :: rest) []).trans hdata⟩

/-- Any bytes may be cut into such blocks. -/
theorem storedBlocks_through (history : Array UInt8) (data : Bytes) :
    ∃ stored, coding.through (Format.before Mode.head history) (storedBlocks data) [] =
      some (data, Format.before Mode.head stored) := by
  have hcut : ∀ data, data ≠ [] → storedBlocks data =
      storedBlock false (data.take maxStored) ++ storedBlocks (data.drop maxStored) := by
    intro data hsome
    rw [storedBlocks, dif_neg hsome]
  have hnone : storedBlocks [] = [] := by rw [storedBlocks, dif_pos rfl]
  have hblock : ∀ (place : coding.State) data,
      (∃ history, place = Format.before Mode.head history) → data ≠ [] → data.length ≤ maxStored →
        ∃ next, coding.through place (storedBlock false data) [] = some (data, next) ∧
          ∃ history, next = Format.before Mode.head history := by
    rintro _ data ⟨history, rfl⟩ hsome hfits
    obtain ⟨stored, hthrough⟩ := storedBlock_through history hsome hfits
    exact ⟨_, hthrough, stored, rfl⟩
  obtain ⟨next, hthrough, stored, rfl⟩ :=
    Transducer.through_cut (by decide) hnone hcut hblock data ⟨history, rfl⟩
  exact ⟨stored, hthrough⟩

/-- An empty last block ends the data. -/
theorem lastBlock_toEnd (history : Array UInt8) :
    coding.toEnd (Format.before Mode.head history) lastBlock [] = some [] := rfl

/-- The decoder stands before a block, where the plain packer can go on with what it holds. -/
def Standing (place : coding.State) (packing : storing.State) (held : Bytes) : Prop :=
  Array.toList packing = held ∧ ∃ history, place = Format.before Mode.head history

/-- The plain packer can go on wherever a block may come next. -/
theorem storing_resumes : storing.Resumes coding settle Standing where
  start := ⟨rfl, #[], rfl⟩
  take place packing held data h := by
    obtain ⟨rfl, hplace⟩ := h
    exact ⟨Array.toList_appendList, hplace⟩
  flush place packing held h := by
    obtain ⟨rfl, history, rfl⟩ := h
    obtain ⟨stored, hthrough⟩ := storedBlocks_through history (Array.toList packing)
    exact ⟨_, hthrough, rfl, stored, rfl⟩
  finish place packing held h := by
    obtain ⟨rfl, history, rfl⟩ := h
    obtain ⟨stored, hthrough⟩ := storedBlocks_through history (Array.toList packing)
    have hall := Transducer.toEnd_through hthrough (lastBlock_toEnd stored)
    rw [List.append_nil] at hall
    exact hall
  resume place packing held output next settled h hthrough hsettle := by
    obtain ⟨-, history, rfl⟩ := h
    obtain ⟨rfl, haccepts, hbefore⟩ :=
      Format.settled_eq_some hsettle (Format.through_placed hthrough fun _ => rfl)
    obtain ⟨mode, begun, need, stored⟩ := settled
    refine ⟨rfl, rfl, stored, ?_⟩
    cases mode with
    | head => exact hbefore
    | symbols last codes => cases haccepts

/-- The data of a compression level decode to what was taken, whatever the search came up with,
however it was cut and wherever it was flushed. -/
theorem packer_decodes (level : Nat) (script : List Feed) :
    coding.toEnd coding.start ((packer level).encodeFrom (packer level).start script) [] =
      some (Feed.content script) := by
  by_cases hstores : level = 0
  · have hpacker : packer level = storing := if_pos hstores
    rw [hpacker]
    exact storing_resumes.encodeFrom storing_resumes.start script
  · have hpacker : packer level =
        .verified coding settle (compressing (.ofLevel level)) storing := if_neg hstores
    rw [hpacker]
    exact Packer.verified_decodes storing_resumes _ script

end ContentCoding.Deflate
