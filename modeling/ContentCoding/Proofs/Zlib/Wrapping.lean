import ContentCoding.Proofs.Deflate.Stored
import ContentCoding.Proofs.Deflate.Units
import ContentCoding.Proofs.Nesting
import ContentCoding.Zlib.Layer

/-!
# Zlib streams decode

The header of each level leads to the deflate data, and these to the checksum. Where it is that of
the data, the stream ends behind it.

The main statement is that the streams of every compression level decode to what was taken, however
it was cut and wherever it was flushed.
-/

namespace ContentCoding.Zlib

/-- The units of deflate data are units of a zlib stream, with the checksum behind them. -/
theorem deflate_nests : Format.Nests Deflate.format format Mode.body Mode.checksum where
  unit mode := by
    refine congrArg (fun change => (Deflate.unit mode).map change) (funext fun next => ?_)
    cases next <;> rfl
  keeps := Deflate.keeps_unit
  incomplete _ _ := nofun
  whole := ⟨_, rfl⟩

/-- The header of a level leads to the data. -/
theorem header_through (level : Nat) :
    coding.through coding.start (header level) [] =
      some ([], Format.before (Mode.body .head) #[]) := by
  rw [header]
  split
  · rfl
  · split
    · rfl
    · split <;> rfl

/-- What comes of the last byte of a checksum behind the others. -/
def checksumEnd (start : Bytes) (last : UInt8) : Scan (Option Mode) :=
  (checkSum (start ++ [last])).bind fun _ => .done none

/-- The other bytes of a checksum lead there. -/
theorem checksumStart_through (stored : Array UInt8) (first second third : UInt8) :
    coding.through (Format.before Mode.checksum stored) [first, second, third] [] =
      some ([], ⟨Mode.checksum, true, .byte (checksumEnd [first, second, third]), stored⟩) := rfl

/-- With its last byte a checksum that fits the data ends the stream. -/
theorem checksumEnd_feed {stored : Array UInt8} {start : Bytes} {last : UInt8}
    (h : Bytes.bigEndian 4 (Adler32.ofBytes stored.toList) = start ++ [last]) :
    coding.feed ⟨Mode.checksum, true, .byte (checksumEnd start), stored⟩ last = .finished [] := by
  have hsame : (start ++ [last] == Bytes.bigEndian 4 (Adler32.ofBytes stored.toList)) = true :=
    beq_iff_eq.mpr h.symm
  refine (Format.feed_whole true _ stored _).trans ?_
  simp only [checksumEnd, checkSum, Scan.bind, Format.proceed, Scan.advance, hsame]
  rfl

/-- So a checksum that fits the data does. -/
theorem checksum_toEnd (stored : Array UInt8) :
    coding.toEnd (Format.before Mode.checksum stored)
      (Bytes.bigEndian 4 (Adler32.ofBytes stored.toList)) [] = some [] := by
  obtain ⟨first, second, third, last, hchecksum⟩ : ∃ first second third last,
      Bytes.bigEndian 4 (Adler32.ofBytes stored.toList) = [first, second, third] ++ [last] :=
    ⟨_, _, _, _, rfl⟩
  have hlast := checksumEnd_feed hchecksum
  rw [hchecksum, Transducer.toEnd_append (checksumStart_through stored _ _ _)]
  simp only [Transducer.toEnd, hlast]
  rfl

/-- The stream of a compression level decodes to what was taken, whatever the search came up with,
however it was cut and wherever it was flushed. -/
theorem packer_decodes (level : Nat) (script : List Feed) :
    coding.toEnd coding.start ((packer level).encodeFrom (packer level).start script) [] =
      some (Feed.content script) := by
  have hwrapped : (packer level).encodeFrom (packer level).start script = header level ++
      (Deflate.packer level).encodeFrom (Deflate.packer level).start script ++
        Bytes.bigEndian 4 (Adler32.ofBytes (Feed.content script)) :=
    (Deflate.packer level).wrap_encodeFrom (header level)
      (fun data => Bytes.bigEndian 4 (Adler32.ofBytes data)) (header level) #[]
      (Deflate.packer level).start script
  obtain ⟨stored, hstored, hbody⟩ :=
    deflate_nests.through_whole (Deflate.packer_decodes level script)
  have hchecksum := checksum_toEnd stored
  rw [hstored] at hchecksum
  have hall := Transducer.toEnd_through (header_through level)
    (Transducer.toEnd_through hbody hchecksum)
  rw [List.nil_append, List.append_nil, ← List.append_assoc] at hall
  rw [hwrapped]
  exact hall

end ContentCoding.Zlib
