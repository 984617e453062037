import ContentCoding.Proofs.Format
import ContentCoding.Zstd.Layer

/-!
# Zstd frames decode

A raw block gives the bytes in it if there is room for them in the buffer of the decoder, which
begins again at its front before another block might not fit. So any number of raw blocks may
follow where there is room for one, and a last, empty one ends the frame.

With these the checked packer falls back on output that decodes, wherever the search before it has
stopped. The main statement is that frames decode to what was taken, however it was cut and
wherever it was flushed.
-/

namespace ContentCoding.Zstd

namespace FrameState

/-- A frame is decoded in pieces, says nothing about its content, and has room for so many bytes.
The buffer is large enough for any block. -/
structure Roomy (state : FrameState) (left : Nat) : Prop where
  /-- The frame is decoded in pieces. -/
  way : state.way = .inPieces
  /-- Blocks may be as large as any. -/
  limit : state.limit = maxBlock
  /-- The size of the content is not known. -/
  content : state.contentSize = none
  /-- There is no checksum. -/
  checksum : state.hasChecksum = false
  /-- The buffer holds any block. -/
  whole : maxBlock ≤ state.ring.size
  /-- So much room is left in it. -/
  room : state.ring.used + left ≤ state.ring.size

variable {state : FrameState} {left count : Nat}

/-- That is what is checked before raw blocks may stand. -/
theorem roomy_of_takesRaw (h : state.takesRaw = true) : state.Roomy maxBlock := by
  rw [takesRaw] at h
  split at h
  · rename_i hway
    simp only [Bool.and_eq_true, decide_eq_true_eq, Option.isNone_iff_eq_none,
      Bool.not_eq_true'] at h
    obtain ⟨⟨⟨hlimit, hcontent⟩, hchecksum⟩, hroom⟩ := h
    exact ⟨hway, hlimit, hcontent, hchecksum, Nat.le_trans (Nat.le_add_left ..) hroom, hroom⟩
  · cases h

/-- There is room for fewer bytes. -/
theorem Roomy.less (h : state.Roomy left) (hless : count ≤ left) : state.Roomy count :=
  { h with room := Nat.le_trans (Nat.add_le_add_left hless _) h.room }

/-- A byte takes room for one. -/
theorem Roomy.fill (h : state.Roomy (left + 1)) :
    Roomy { state with ring := state.ring.fill 1 } left := by
  obtain ⟨hway, hlimit, hcontent, hchecksum, hwhole, hroom⟩ := h
  refine ⟨hway, hlimit, hcontent, hchecksum, hwhole, ?_⟩
  dsimp only [Ring.fill]
  omega

/-- Behind the last byte of a block there is room for another one. -/
theorem Roomy.turn (h : state.Roomy left) :
    Roomy { state with ring := state.ring.turn maxBlock none } maxBlock := by
  obtain ⟨hway, hlimit, hcontent, hchecksum, hwhole, -⟩ := h
  have hsize : (state.ring.turn maxBlock none).size = state.ring.size := by
    rw [Ring.turn]
    split <;> rfl
  refine ⟨hway, hlimit, hcontent, hchecksum, Nat.le_trans hwhole (Nat.le_of_eq hsize.symm), ?_⟩
  dsimp only [Ring.turn]
  split
  · rw [Nat.zero_add]
    exact hwhole
  · rename_i hfits
    simpa using hfits

end FrameState

/-! ### Raw blocks -/

variable {state : FrameState} {count : Nat}

/-- Where there is room for it, a byte is put out and fills the buffer. -/
theorem output_byte (h : state.Roomy (count + 1)) (byte : UInt8) :
    output state (Piece.ofBytes state.codes [byte]) =
      .inspect fun _ _ => .emit [byte] fun _ => .done { state with ring := state.ring.fill 1 } := by
  obtain ⟨limit, contentSize, hasChecksum, way, room, reserve, ring, codes⟩ := state
  obtain ⟨rfl, rfl, rfl, rfl, hwhole, hroom⟩ := h
  have hfits : ¬ring.space.room < [byte].length := by
    dsimp only [Ring.space, List.length_singleton] at hroom ⊢
    omega
  have hpiece : Piece.ofBytes codes [byte] ring.space =
      .ok { literals := [byte], size := 1, codes } := if_neg hfits
  have hlimited : Piece.limited maxBlock { literals := [byte], size := 1, codes } =
      .ok { literals := [byte], size := 1, codes } := if_neg (show ¬maxBlock < 1 by decide)
  have hread : (do (← Piece.ofBytes codes [byte] ring.space).limited maxBlock) =
      Except.ok { literals := [byte], size := 1, codes : Piece } := by
    rw [hpiece]
    exact hlimited
  refine congrArg Scan.inspect (funext fun history => funext fun bitsLeft => ?_)
  simp only [Way.judge, hread]
  rfl

/-- What comes behind a byte of a raw block of which so many are left. -/
def behindByte (state : FrameState) (left : Nat) : Mode :=
  let filled := { state with ring := state.ring.fill 1 }
  if left = 0 then .block { filled with ring := filled.ring.turn maxBlock none }
  else .content filled ⟨.raw, left, false⟩

/-- A byte of a raw block leads there. -/
theorem content_feed (h : state.Roomy (count + 1)) (history : Array UInt8) (byte : UInt8) :
    coding.feed (Format.before (Mode.content state ⟨.raw, count + 1, false⟩) history) byte =
      .running [byte] (Format.before (behindByte state count) (history.push byte)) := by
  refine (Format.feed_whole false _ history byte).trans ?_
  rw [content, output_byte h byte, behindByte]
  obtain ⟨limit, contentSize, hasChecksum, way, room, reserve, ring, codes⟩ := state
  obtain ⟨rfl, rfl, rfl, rfl, hwhole, hroom⟩ := h
  cases count with
  | zero => rfl
  | succ count => rfl

/-- The bytes of a raw block are given, and another block may come behind them. -/
theorem rawContent_through {byte : UInt8} {data : Bytes} (h : state.Roomy (data.length + 1))
    (history : Array UInt8) (output : Bytes) :
    ∃ next stored, FrameState.Roomy next maxBlock ∧
      coding.through (Format.before (Mode.content state ⟨.raw, data.length + 1, false⟩) history)
        (byte :: data) output =
        some (output.reverse ++ byte :: data, Format.before (Mode.block next) stored) := by
  induction data generalizing state byte history output with
  | nil =>
    refine ⟨_, history.push byte, h.fill.turn, ?_⟩
    refine (Transducer.through_cons (content_feed h history byte) [] output).trans ?_
    exact congrArg (fun whole => some (whole, _)) List.reverse_cons
  | cons later data ih =>
    obtain ⟨next, stored, hroomy, hrest⟩ := @ih _ later h.fill (history.push byte) (byte :: output)
    rw [List.reverse_cons, List.append_assoc] at hrest
    exact ⟨next, stored, hroomy, (Transducer.through_cons (content_feed h history byte)
      (later :: data) output).trans hrest⟩

/-- What comes of the last byte of the header of a block, behind the others. -/
def headed (state : FrameState) (header : Bytes) : Scan (Option Mode) :=
  let value := Bytes.valueLE header
  match value / 2 % 4 with
  | 0 => beginBlock state ⟨.raw, value / 8, value % 2 = 1⟩
  | 1 => beginBlock state ⟨.repeated, value / 8, value % 2 = 1⟩
  | 2 => beginBlock state ⟨.coded, value / 8, value % 2 = 1⟩
  | _ => .fail state.way.disorder

/-- The other bytes lead there. -/
theorem blockHead_through (state : FrameState) (history : Array UInt8) (first second : UInt8) :
    coding.through (Format.before (Mode.block state) history) [first, second] [] =
      some ([], ⟨Mode.block state, true,
        .byte fun third => headed state [first, second, third], history⟩) := rfl

/-- The header of a raw block that is not empty leads to its bytes. -/
theorem headed_raw (h : state.Roomy maxBlock) (hsome : count ≠ 0) (hfits : count ≤ maxBlock) :
    headed state (rawHeader false count) =
      .inspect fun _ _ => .done (some (.content state ⟨.raw, count, false⟩)) := by
  have hvalue : Bytes.valueLE (rawHeader false count) = count * 8 := by
    refine (Bytes.valueLE_littleEndian 3 _).trans (Nat.mod_eq_of_lt ?_)
    have hwidth : twoTo (8 * 3) = 16777216 := rfl
    rw [maxBlock] at hfits
    simp only [Bool.false_eq_true, if_false]
    omega
  have hkind : count * 8 / 2 % 4 = 0 := by omega
  have hsize : count * 8 / 8 = count := by omega
  have hlast : ¬count * 8 % 2 = 1 := by omega
  obtain ⟨limit, contentSize, hasChecksum, way, room, reserve, ring, codes⟩ := state
  obtain ⟨rfl, rfl, rfl, rfl, hwhole, hroom⟩ := h
  simp only [headed, hvalue, hkind, hsize, hlast, decide_false]
  refine congrArg Scan.inspect (funext fun history => funext fun bitsLeft => ?_)
  have hlimited : (if maxBlock < count then Except.error Damage.data else Except.ok ()) =
      Except.ok () := if_neg (Nat.not_lt.mpr hfits)
  have hdemand : Way.demand .inPieces (if (FrameState.spaceAtOnce
      ⟨maxBlock, none, false, .inPieces, room, reserve, ring, codes⟩ history.size).room < count
        then Except.error Damage.room else Except.ok ())
      (if maxBlock < count then Except.error Damage.data else Except.ok ()) = .done .inPieces := by
    rw [hlimited]
    rfl
  exact (congrArg (Scan.bind · _) hdemand).trans (if_neg hsome)

/-- A raw block gives its bytes, and another block may come behind it. -/
theorem rawBlock_through (h : state.Roomy maxBlock) (history : Array UInt8) {data : Bytes}
    (hsome : data ≠ []) (hfits : data.length ≤ maxBlock) :
    ∃ next stored, FrameState.Roomy next maxBlock ∧
      coding.through (Format.before (Mode.block state) history)
        (rawHeader false data.length ++ data) [] =
        some (data, Format.before (Mode.block next) stored) := by
  obtain ⟨byte, rest, rfl⟩ := List.exists_cons_of_ne_nil hsome
  have hheaded := headed_raw h (Nat.succ_ne_zero rest.length) hfits
  obtain ⟨first, second, third, hheader⟩ : ∃ first second third,
      rawHeader false (rest.length + 1) = [first, second, third] := ⟨_, _, _, rfl⟩
  rw [hheader] at hheaded
  have hfeed : coding.feed ⟨Mode.block state, true,
      .byte fun third => headed state [first, second, third], history⟩ third =
      .running [] (Format.before (Mode.content state ⟨.raw, rest.length + 1, false⟩) history) := by
    refine (Format.feed_whole true _ history third).trans ?_
    rw [hheaded]
    rfl
  obtain ⟨next, stored, hroomy, hdata⟩ := @rawContent_through _ byte rest (h.less hfits) history []
  have hsplit : rawHeader false (byte :: rest).length ++ byte :: rest =
      [first, second] ++ third :: byte :: rest := congrArg (· ++ byte :: rest) hheader
  rw [hsplit, Transducer.through_append (blockHead_through state history first second)]
  exact ⟨next, stored, hroomy, (Transducer.through_cons hfeed (byte :: rest) []).trans hdata⟩

/-! ### Frames -/

/-- The decoder stands before a block, and there is room for one. -/
def AtBlock (place : coding.State) : Prop :=
  ∃ (state : FrameState) (history : Array UInt8), state.Roomy maxBlock ∧
    place = Format.before (Mode.block state) history

variable {place : coding.State} {held : Bytes}

/-- Any bytes may be cut into raw blocks. -/
theorem AtBlock.through (h : AtBlock place) (data : Bytes) :
    ∃ next, coding.through place (rawBlocks data) [] = some (data, next) ∧ AtBlock next := by
  have hcut : ∀ data, data ≠ [] → rawBlocks data =
      (rawHeader false (data.take maxBlock).length ++ data.take maxBlock) ++
        rawBlocks (data.drop maxBlock) := by
    intro data hsome
    rw [rawBlocks, dif_neg hsome]
  have hnone : rawBlocks [] = [] := by rw [rawBlocks, dif_pos rfl]
  refine @Transducer.through_cut coding AtBlock (fun data => rawHeader false data.length ++ data)
    rawBlocks maxBlock (by decide) hnone hcut ?_ data _ h
  rintro _ data ⟨state, history, hroomy, rfl⟩ hsome hfits
  obtain ⟨next, stored, hnext, hthrough⟩ := rawBlock_through hroomy history hsome hfits
  exact ⟨_, hthrough, next, stored, hnext, rfl⟩

/-- An empty last block ends the frame, and the stream may end there. -/
theorem AtBlock.toEnd (h : AtBlock place) : coding.toEnd place lastBlock [] = some [] := by
  obtain ⟨⟨limit, size, hasChecksum, way, room, reserve, ring, codes⟩, history, hroomy, rfl⟩ := h
  obtain ⟨rfl, rfl, rfl, rfl, -, -⟩ := hroomy
  rfl

/-- The header of a plain frame leads to a block. -/
theorem rawOpening_through :
    ∃ next, coding.through coding.start rawOpening [] = some ([], next) ∧ AtBlock next :=
  ⟨_, rfl, _, #[], ⟨rfl, rfl, rfl, rfl, by decide, by decide⟩, rfl⟩

/-- The decoder stands where a plain packer can go on with what it holds. -/
def Standing (place : coding.State) (packing : storing.State) (held : Bytes) : Prop :=
  Array.toList packing.inner = held ∧
    (packing.opening = rawOpening ∧ place = coding.start ∨ packing.opening = [] ∧ AtBlock place)

/-- Flushing a plain packer puts out what it holds, and a block may come next. -/
theorem Standing.flush {packing : storing.State} (h : Standing place packing held) :
    ∃ next, coding.through place (storing.flush packing).1 [] = some (held, next) ∧
      AtBlock next := by
  obtain ⟨opening, data, inner⟩ := packing
  obtain ⟨rfl, ⟨rfl, rfl⟩ | ⟨rfl, hblock⟩⟩ := h
  · obtain ⟨between, hopening, hbetween⟩ := rawOpening_through
    obtain ⟨next, hblocks, hnext⟩ := hbetween.through (Array.toList inner)
    exact ⟨next, Transducer.through_through hopening hblocks, hnext⟩
  · exact hblock.through (Array.toList inner)

/-- A decoder in front of what a plain packer holds is placed before a unit. -/
theorem Standing.placed {packing : storing.State} (h : Standing place packing held) :
    Format.Position.Placed place := by
  obtain ⟨-, ⟨-, rfl⟩ | ⟨-, state, history, -, rfl⟩⟩ := h
  · exact fun _ => rfl
  · exact fun _ => rfl

/-- A plain packer can go on wherever there is room for another block. -/
theorem storing_resumes : storing.Resumes coding settle Standing where
  start := ⟨rfl, .inl ⟨rfl, rfl⟩⟩
  take place packing held data h := by
    obtain ⟨opening, taken, inner⟩ := packing
    obtain ⟨rfl, hplace⟩ := h
    exact ⟨Array.toList_appendList, hplace⟩
  flush place packing held h := by
    obtain ⟨next, hthrough, hnext⟩ := h.flush
    exact ⟨next, hthrough, rfl, .inr ⟨rfl, hnext⟩⟩
  finish place packing held h := by
    obtain ⟨next, hthrough, hnext⟩ := h.flush
    have hall := Transducer.toEnd_through hthrough hnext.toEnd
    have hfinish : storing.finish packing = (storing.flush packing).1 ++ lastBlock := by
      obtain ⟨opening, data, inner⟩ := packing
      change opening ++ (rawBlocks (Array.toList inner) ++ lastBlock) ++ [] =
        opening ++ rawBlocks (Array.toList inner) ++ lastBlock
      rw [List.append_nil, List.append_assoc]
    rw [List.append_nil] at hall
    rw [hfinish]
    exact hall
  resume place packing held output next settled h hthrough hsettle := by
    obtain ⟨rfl, haccepts, hbefore⟩ :=
      Format.settled_eq_some hsettle (Format.through_placed hthrough h.placed)
    obtain ⟨mode, begun, need, history⟩ := settled
    refine ⟨rfl, rfl, .inr ⟨rfl, ?_⟩⟩
    cases mode with
    | block state => exact ⟨state, history, FrameState.roomy_of_takesRaw haccepts, hbefore⟩
    | frame first reserve => cases haccepts
    | content state header => cases haccepts
    | checksum state => cases haccepts

/-- The frames of the checked packer decode to what was taken, whatever the search came up with,
however it was cut and wherever it was flushed. -/
theorem packer_decodes (script : List Feed) :
    coding.toEnd coding.start (packer.encodeFrom packer.start script) [] =
      some (Feed.content script) :=
  Packer.verified_decodes storing_resumes compressing script

end ContentCoding.Zstd
