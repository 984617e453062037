import ContentCoding.Proofs.Builtin
import ContentCoding.Proofs.Deferred
import ContentCoding.Proofs.Deflate.Stored
import ContentCoding.Proofs.Deflate.Units
import ContentCoding.Proofs.Flow
import ContentCoding.Proofs.RoundTrip
import ContentCoding.Proofs.Stacking
import ContentCoding.Proofs.WholeStream
import Mathlib.Data.List.Forall2

/-!
# Members of a gzip stream

A member is read from its header to the last byte of its trailer, and then the decoder stands before
the header of another one, wherever in a buffer that may be. So members one behind the other give
their data one behind the other, those without data nothing, and a stream may end behind each.

The main statement is about what encoders put out: each encoding of some data is a member, and
any number of them decode to all of the data, in one go and through a decompressor that is read
piece by piece, whatever pieces its source hands out.
-/

namespace ContentCoding

namespace Gzip

/-! ### One member -/

/-- The units of deflate data are units of a member, with its trailer behind them. -/
theorem deflate_nests : Format.Nests Deflate.format format Mode.body Mode.trailer where
  unit mode := by
    refine congrArg (fun change => (Deflate.unit mode).map change) (funext fun next => ?_)
    cases next <;> rfl
  keeps := Deflate.keeps_unit
  incomplete _ _ := nofun
  whole := ⟨_, rfl⟩

/-- A header leads to the data, for which the decoder starts afresh. -/
theorem opening_through (first : Bool) (history : Array UInt8) (level : Nat) :
    coding.through (Format.before (Mode.header first) history) (opening level) [] =
      some ([], Format.before (Mode.body .head) #[]) := rfl

/-- What comes of the last byte of a trailer behind the others. -/
def trailerEnd (start : Bytes) (last : UInt8) : Scan (Option Mode) :=
  (checkTrailer (start ++ [last])).bind fun _ => .done (some (.header false))

/-- The other bytes of a trailer lead there. -/
theorem trailerStart_through (stored : Array UInt8)
    (first second third fourth fifth sixth seventh : UInt8) :
    coding.through (Format.before Mode.trailer stored)
      [first, second, third, fourth, fifth, sixth, seventh] [] =
    some ([], ⟨Mode.trailer, true,
      .byte (trailerEnd [first, second, third, fourth, fifth, sixth, seventh]), stored⟩) := rfl

/-- With its last byte a trailer that fits the data leads to the header of another member. -/
theorem trailerEnd_feed {stored : Array UInt8} {start : Bytes} {last : UInt8}
    (h : trailerOf stored.toList = start ++ [last]) :
    coding.feed ⟨Mode.trailer, true, .byte (trailerEnd start), stored⟩ last =
      .running [] (Format.before (Mode.header false) stored) := by
  have hsame : (start ++ [last] == trailerOf stored.toList) = true := beq_iff_eq.mpr h.symm
  refine (Format.feed_whole true _ stored _).trans ?_
  simp only [trailerEnd, checkTrailer, Scan.bind, Format.proceed, Scan.advance, hsame]
  rfl

/-- So a trailer that fits the data does. -/
theorem trailer_through (stored : Array UInt8) :
    coding.through (Format.before Mode.trailer stored) (trailerOf stored.toList) [] =
      some ([], Format.before (Mode.header false) stored) := by
  obtain ⟨first, second, third, fourth, fifth, sixth, seventh, last, htrailer⟩ :
      ∃ first second third fourth fifth sixth seventh last, trailerOf stored.toList =
        [first, second, third, fourth, fifth, sixth, seventh] ++ [last] :=
    ⟨_, _, _, _, _, _, _, _, rfl⟩
  have hlast := trailerEnd_feed htrailer
  rw [htrailer, Transducer.through_append (trailerStart_through stored _ _ _ _ _ _ _)]
  exact Transducer.through_cons hlast [] []

/-- Before any header some bytes give data and lead to another header. -/
def Leads (encoded data : Bytes) : Prop :=
  ∀ first history, ∃ stored, coding.through (Format.before (Mode.header first) history) encoded [] =
    some (data, Format.before (Mode.header false) stored)

/-- What an encoder of a level puts out for pieces and flushes. -/
def member (level : Nat) (script : List Feed) : Bytes :=
  opening level ++ (packer level).encodeFrom (packer level).start script

/-- It is the header, deflate data for the script and the trailer for its content. -/
theorem member_eq (level : Nat) (script : List Feed) :
    member level script = opening level ++
      ((Deflate.packer level).encodeFrom (Deflate.packer level).start script ++
        trailerOf (Feed.content script)) := by
  have hwrapped := (Deflate.packer level).wrap_encodeFrom [] trailerOf [] #[]
    (Deflate.packer level).start script
  exact congrArg (opening level ++ ·) hwrapped

/-- It gives the content, whatever the search of the encoder came up with. -/
theorem member_leads (level : Nat) (script : List Feed) :
    Leads (member level script) (Feed.content script) := by
  intro first history
  obtain ⟨stored, hstored, hbody⟩ :=
    deflate_nests.through_whole (Deflate.packer_decodes level script)
  have htrailer := trailer_through stored
  rw [hstored] at htrailer
  have hall := Transducer.through_through (opening_through first history level)
    (Transducer.through_through hbody htrailer)
  rw [List.nil_append, List.append_nil] at hall
  rw [member_eq]
  exact ⟨stored, hall⟩

/-! ### Many members -/

/-- Members one behind the other give their data one behind the other. -/
theorem leads_flatten {members parts : List Bytes} (h : List.Forall₂ Leads members parts)
    (hsome : members ≠ []) : Leads members.flatten parts.flatten := by
  -- a later member begins where the one before it has ended, with that one's output remembered
  induction h with
  | nil => exact absurd rfl hsome
  | @cons encoded data members parts hfirst hrest ih =>
    intro first history
    obtain ⟨stored, hone⟩ := hfirst first history
    cases hrest with
    | nil =>
      rw [List.flatten_singleton, List.flatten_singleton]
      exact ⟨stored, hone⟩
    | cons hsecond hlater =>
      obtain ⟨last, hothers⟩ := ih (List.cons_ne_nil _ _) false stored
      exact ⟨last, Transducer.through_through hone hothers⟩

/-- Behind a member the stream may end. -/
theorem Leads.decodeFrom {encoded data : Bytes} (h : Leads encoded data) :
    coding.decodeFrom coding.start encoded = ⟨data, none⟩ := by
  obtain ⟨stored, hthrough⟩ := h true #[]
  have hend : coding.toEnd (Format.before (Mode.header false) stored) [] [] = some [] := rfl
  have hall := Transducer.toEnd_through hthrough hend
  rw [List.append_nil, List.append_nil] at hall
  obtain ⟨more, rfl, hdecoded⟩ := Transducer.decodeFrom_of_toEnd hall
  exact hdecoded

/-! ### Layers -/

/-- The factory of the decoding layer makes one that recovers what the stream decodes to, though the
first header has been read by then. -/
theorem decoderFactory_recovers {patience : Nat} {encoded data : Bytes}
    (h : coding.decodeFrom coding.start encoded = ⟨data, none⟩)
    (hpatience : encoded.length < patience) :
    (decoderFactory patience).Consumes (fun made rest => ∃ state,
      made = .built (decoder patience) state ∧
        (decoder patience).Recovers state rest data) encoded := by
  have hroomy : 1 ≤ (readRule patience).bufferSize := show 1 ≤ Deflate.bufferSize by decide
  have hfill := @Buffered.fill_decodes coding afterHeader encoded data (readRule patience) 1 hroomy
    (Nat.le_refl 1) patience coding.fresh (fun _ => hpatience) (Buffered.fresh_decodes h)
  refine Pull.Consumes.map (hfill.mono ?_)
  rintro ⟨answer, reader⟩ rest ⟨hanswer, -, hdecodes, hless⟩
  dsimp only at hanswer
  subst hanswer
  exact ⟨reader, rfl, hdecodes.recovers hroomy (Nat.lt_of_le_of_lt hless hpatience)⟩

end Gzip

/-- A registry with configured parameters encodes with gzip if the level is in range. -/
theorem EncoderRegistry.gzip_transcribes (patience : Nat) {config : CodecConfig}
    (hlevel : config.flateLevel.toNat ≤ CodecConfig.maxFlateLevel) (script : List Feed) :
    ∃ sent, (EncoderRegistry.ofConfig patience config).Transcribes ["gzip"] script sent ∧
      Feed.content sent = Gzip.member config.flateLevel.toNat script := by
  obtain ⟨sent, hwrites, hcontent⟩ := Deferred.writes (Gzip.deferRule patience
    config.flateLevel.toNat) (Gzip.packer config.flateLevel.toNat).start
    (Gzip.opening config.flateLevel.toNat) script
  have hfound := Coding.get?_token (Coding.encoderFactory patience config) .gzip
  have hchecked : CodecConfig.checkFlate config.flateLevel = .ok () := if_pos hlevel
  have hfactory : Coding.encoderFactory patience config .gzip =
      .always (Gzip.encoder patience config.flateLevel.toNat)
        (Gzip.fresh patience config.flateLevel.toNat) := by
    rw [Coding.encoderFactory, hchecked]
    rfl
  rw [hfactory] at hfound
  exact ⟨sent, ⟨script, _, _, rfl, ⟨_, hfound, rfl, rfl⟩, hwrites.transcribes⟩, hcontent⟩

variable {patience : Nat} {encoded data : Bytes}

/-- A registry with configured parameters decodes members with gzip. -/
theorem DecoderRegistry.gzip_recovers (config : CodecConfig) (h : Gzip.Leads encoded data)
    (hpatience : encoded.length < patience) :
    (DecoderRegistry.ofConfig patience config).Recovers ["gzip"] encoded data := by
  have hfound := Coding.get?_token (Coding.decoderFactory patience config) .gzip
  refine ⟨data, _, hfound, (Gzip.decoderFactory_recovers h.decodeFrom hpatience).mono ?_, rfl⟩
  rintro made rest ⟨state, hmade, hrecovers⟩
  exact ⟨_, state, hmade, hrecovers⟩

/-- The stream of members is turned into one of their data, and the layer can be finalized. -/
theorem DecoderRegistry.gzip_turns (config : CodecConfig) (h : Gzip.Leads encoded data)
    (hpatience : encoded.length < patience) :
    (DecoderRegistry.ofConfig patience config).Turns ["gzip"] ⟨encoded, .closed⟩
      ⟨data, .closed⟩ := by
  have hfound := Coding.get?_token (Coding.decoderFactory patience config) .gzip
  refine ⟨_, _, hfound, (Gzip.decoderFactory_recovers h.decodeFrom hpatience).draws.mono ?_, rfl⟩
  rintro made _ ⟨rest, rfl, state, hmade, hrecovers⟩
  exact ⟨_, state, hmade, fun _ => rfl, hrecovers.converts⟩

/-- The encoding of data with gzip is one member, and the decoder is led through it to the data. -/
theorem EncoderRegistry.gzip_encodes {config : CodecConfig}
    (hlevel : config.flateLevel.toNat ≤ CodecConfig.maxFlateLevel) (data : Bytes) :
    Gzip.Leads (Gzip.member config.flateLevel.toNat (Feed.rest data [])) data ∧
      ∀ budget patience, compress budget (.ofConfig patience config) ["gzip"] data =
        .done (Gzip.member config.flateLevel.toNat (Feed.rest data [])) := by
  have hcontent : Feed.content (Feed.rest data []) = data := by
    rw [Feed.content_rest, Feed.content, List.append_nil]
  refine ⟨?_, fun budget patience => ?_⟩
  · have hleads := Gzip.member_leads config.flateLevel.toNat (Feed.rest data [])
    rwa [hcontent] at hleads
  · obtain ⟨sent, htranscribes, hsent⟩ :=
      EncoderRegistry.gzip_transcribes patience hlevel (Feed.rest data [])
    rw [compress_of_transcribes htranscribes, hsent]

/-- What encodings with gzip put out one behind the other decodes to all of the data, whatever the
levels are. That holds of empty data too, and of the streams of all other encoders: it is enough
that the decoder is led through them from one header to the next, as it is through what this
library puts out. A decompressor delivers the data from every source, whatever pieces it hands out and whatever
rooms the data are read with. The reads allowed to one call cover the stream, of which any number
of members in a row may be without data. -/
theorem concatenated_members_decode (parts : List (CodecConfig × Bytes)) (hsome : parts ≠ [])
    (hlevels : ∀ part ∈ parts, part.1.flateLevel.toNat ≤ CodecConfig.maxFlateLevel) :
    (∃ members : List Bytes, List.Forall₂ (fun part member => Gzip.Leads member part.2 ∧
      ∀ budget patience, compress budget (.ofConfig patience part.1) ["gzip"] part.2 =
        .done member) parts members) ∧
    ∀ members : List Bytes, List.Forall₂ (fun part member => Gzip.Leads member part.2)
        parts members →
      ∀ reading patience, members.flatten.length < patience →
        Decompresses (.ofConfig patience reading) ["gzip"] members.flatten
          (parts.map Prod.snd).flatten ∧
        ∀ attempts sizes, (parts.map Prod.snd).flatten.length < attempts →
          decompress attempts sizes (.ofConfig patience reading) ["gzip"] members.flatten =
            .done (parts.map Prod.snd).flatten := by
  constructor
  · refine ⟨parts.map fun part => Gzip.member part.1.flateLevel.toNat (Feed.rest part.2 []), ?_⟩
    exact List.forall₂_map_right_iff.mpr (List.forall₂_same.mpr fun part hpart =>
      EncoderRegistry.gzip_encodes (hlevels part hpart) part.2)
  · intro members hmembers reading patience hpatience
    have hflip : List.Forall₂ Gzip.Leads members (parts.map Prod.snd) :=
      List.forall₂_map_right_iff.mpr hmembers.flip
    have hleads := Gzip.leads_flatten hflip fun hnone => by
      subst hnone
      cases hmembers
      exact hsome rfl
    refine ⟨fun holds hs source hsource rooms hrooms => ?_, fun attempts sizes hattempts => ?_⟩
    · exact Decompressor.create_delivers hs (DecoderRegistry.gzip_recovers reading hleads hpatience)
        hsource hrooms
    · have hturns := DecoderRegistry.gzip_turns reading hleads hpatience
      have hanswer := @decompress_of_turns _ ["gzip"] _ _ hturns attempts sizes
      exact hanswer.resolve_right fun hfew => absurd hfew.1 (Nat.not_le_of_lt hattempts)

/-- Members of three levels, the one in the middle without data, are read to the end. -/
theorem empty_member_between_others :
    let parts : List (CodecConfig × Bytes) :=
      [({}, [1, 2]), ({ flateLevel := 0 }, []), ({ flateLevel := 9 }, [3])]
    (parts ≠ [] ∧ ∀ part ∈ parts, part.1.flateLevel.toNat ≤ CodecConfig.maxFlateLevel) ∧
      ∃ members : List Bytes,
        List.Forall₂ (fun part member =>
          compress 8 (.ofConfig 8 part.1) ["gzip"] part.2 = .done member) parts members ∧
        ∀ patience, members.flatten.length < patience → ∀ sizes,
          ((Decompressor.create members.flatten (.builtin patience) ["gzip"]).readToEnd 4
            sizes).1 = .done [1, 2, 3] ∧
          decompress 4 sizes (.builtin patience) ["gzip"] members.flatten = .done [1, 2, 3] := by
  intro parts
  have hsome : parts ≠ [] := List.cons_ne_nil _ _
  have hlevels : ∀ part ∈ parts, part.1.flateLevel.toNat ≤ CodecConfig.maxFlateLevel := by
    simp only [parts, List.forall_mem_cons]
    decide
  obtain ⟨⟨members, hencoded⟩, hdecoded⟩ := concatenated_members_decode parts hsome hlevels
  refine ⟨⟨hsome, hlevels⟩, members, hencoded.imp fun _ _ hall => hall.2 8 8, ?_⟩
  intro patience hpatience sizes
  obtain ⟨hstream, hwhole⟩ := hdecoded members (hencoded.imp fun _ _ hall => hall.1) {} patience
    hpatience
  exact ⟨hstream.readToEnd Bytes.supplies rfl (by decide) sizes, hwhole 4 sizes (by decide)⟩

end ContentCoding
