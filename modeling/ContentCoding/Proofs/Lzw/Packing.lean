import ContentCoding.Proofs.Lzw.Unpacking

/-!
# Encoder and decoder in step

The decoder assigns each code one code later than the encoder. What the encoder
has assigned is therefore what the decoder has assigned and, unless the table was
just cleared, one string more, which the decoder will know by the first byte of the
next string. The two are in step if all that the encoder finds in its table is
right about these strings, and the widths agree.

The main statement is that what the encoder has put out and still holds can be
decoded, up to the string that is pending, and that taking a byte keeps it so.
-/

namespace ContentCoding.Lzw

/-- A code names a string, with the strings of the assigned codes known. -/
def Names (known : Array Bytes) (code : Nat) (string : Bytes) : Prop :=
  code < 256 ∧ string = [UInt8.ofNat code] ∨
    firstFree ≤ code ∧ known[code - firstFree]? = some string

namespace Names

variable {known : Array Bytes} {code : Nat} {string other : Bytes}

/-- A byte is named by its literal. -/
theorem byte (known : Array Bytes) (byte : UInt8) : Names known byte.toNat [byte] :=
  .inl ⟨byte.toNat_lt, by rw [UInt8.ofNat_toNat]⟩

/-- Codes below the next free one name strings. -/
theorem lt (h : Names known code string) : code < firstFree + known.size := by
  rcases h with ⟨hbyte, -⟩ | ⟨hfree, hknown⟩
  · exact Nat.lt_of_lt_of_le hbyte (Nat.le_add_right_of_le (by decide))
  · obtain ⟨hlt, -⟩ := Array.getElem?_eq_some_iff.mp hknown
    omega

/-- The clear code names no string. -/
theorem ne_clear (h : Names known code string) : code ≠ clearCode := by
  rintro rfl
  rcases h with ⟨hbyte, -⟩ | ⟨hfree, -⟩
  · exact absurd hbyte (by decide)
  · exact absurd hfree (by decide)

/-- The end code names no string. -/
theorem ne_end (h : Names known code string) : code ≠ endCode := by
  rintro rfl
  rcases h with ⟨hbyte, -⟩ | ⟨hfree, -⟩
  · exact absurd hbyte (by decide)
  · exact absurd hfree (by decide)

/-- A code names one string. -/
theorem unique (h : Names known code string) (ho : Names known code other) : string = other := by
  rcases h with ⟨hbyte, rfl⟩ | ⟨hfree, hknown⟩
  · rcases ho with ⟨-, rfl⟩ | ⟨hfree, -⟩
    · rfl
    · exact absurd (Nat.lt_of_lt_of_le hbyte (by decide)) (Nat.not_lt.mpr hfree)
  · rcases ho with ⟨hbyte, -⟩ | ⟨-, hother⟩
    · exact absurd (Nat.lt_of_lt_of_le hbyte (by decide)) (Nat.not_lt.mpr hfree)
    · exact Option.some.inj (hknown.symm.trans hother)

/-- A code keeps its string when another is assigned. -/
theorem push (h : Names known code string) (next : Bytes) :
    Names (known.push next) code string := by
  rcases h with hbyte | ⟨hfree, hknown⟩
  · exact .inl hbyte
  · obtain ⟨hlt, -⟩ := Array.getElem?_eq_some_iff.mp hknown
    refine .inr ⟨hfree, ?_⟩
    rw [Array.getElem?_push, if_neg (Nat.ne_of_lt hlt)]
    exact hknown

/-- The next free code names the string that it is assigned to. -/
theorem push_self (known : Array Bytes) (next : Bytes) :
    Names (known.push next) (firstFree + known.size) next := by
  refine .inr ⟨Nat.le_add_right _ _, ?_⟩
  rw [Nat.add_sub_cancel_left]
  exact Array.getElem?_push_size

/-- The strings of codes have bytes if the known ones do. -/
theorem ne_nil (h : Names known code string) (hknown : ∀ entry ∈ known, entry ≠ []) :
    string ≠ [] := by
  rcases h with ⟨-, rfl⟩ | ⟨-, hentry⟩
  · exact List.cons_ne_nil _ _
  · exact hknown string (Array.mem_of_getElem? hentry)

end Names

/-- What the encoder finds in its table is right. -/
def Sound (table : Std.HashMap Nat Nat) (known : Array Bytes) : Prop :=
  ∀ code byte longer, table[Packing.key code byte]? = some longer →
    ∃ string, Names known code string ∧ Names known longer (string ++ [byte])

/-- The key of an extension tells the code and the byte. -/
theorem Packing.key_inj {code other : Nat} {byte extra : UInt8}
    (h : key code byte = key other extra) : code = other ∧ byte = extra := by
  have hbyte := byte.toNat_lt
  have hextra := extra.toNat_lt
  rw [key, key] at h
  exact ⟨by omega, UInt8.toNat_inj.mp (by omega)⟩

/-- An empty table is right about everything. -/
theorem sound_empty (known : Array Bytes) : Sound ∅ known := by
  intro code byte longer h
  rw [Std.HashMap.getElem?_empty] at h
  cases h

/-- A table stays right when a code is assigned. -/
theorem Sound.push {table : Std.HashMap Nat Nat} {known : Array Bytes} (h : Sound table known)
    (next : Bytes) : Sound table (known.push next) := by
  intro code byte longer hfound
  obtain ⟨string, hcode, hlonger⟩ := h code byte longer hfound
  exact ⟨string, hcode.push next, hlonger.push next⟩

/-- A table stays right when the code that is assigned is entered. -/
theorem Sound.insert {table : Std.HashMap Nat Nat} {known : Array Bytes} (h : Sound table known)
    {code : Nat} {string : Bytes} (hcode : Names known code string) (byte : UInt8) :
    Sound (table.insert (Packing.key code byte) (firstFree + known.size))
      (known.push (string ++ [byte])) := by
  intro other extra longer hfound
  rw [Std.HashMap.getElem?_insert] at hfound
  split at hfound
  · rename_i hsame
    obtain ⟨rfl, rfl⟩ := Packing.key_inj (beq_iff_eq.mp hsame)
    cases hfound
    exact ⟨string, hcode.push _, .push_self _ _⟩
  · exact h.push _ other extra longer hfound

namespace Unpacking

/-- The strings that the encoder has assigned codes to, if a string comes next. -/
def awaiting (unpacking : Unpacking) (string : Bytes) : Array Bytes :=
  match unpacking.previous with
  | none => unpacking.entries
  | some previous => unpacking.entries.push (previous ++ string.take 1)

end Unpacking

/-- Encoder and decoder are in step, with a string pending. -/
structure InStep (packing : Packing) (unpacking : Unpacking) (string : Bytes) : Prop where
  /-- Both expect codes of one width. -/
  width : packing.width = unpacking.width
  /-- All codes so far fit the width. -/
  fits : packing.free ≤ twoTo packing.width
  /-- The encoder is ahead by the string that the decoder awaits. -/
  free : packing.free = firstFree + (unpacking.awaiting string).size
  /-- There are not too many codes. -/
  limit : packing.free ≤ codeLimit
  /-- What the encoder finds in its table is right. -/
  table : Sound packing.table (unpacking.awaiting string)
  /-- Strings have bytes. -/
  filled : ∀ entry ∈ unpacking.awaiting string, entry ≠ []
  /-- So does the string before. -/
  previous : ∀ previous, unpacking.previous = some previous → previous ≠ []
  /-- Without a string before, the decoder has no entries. -/
  cleared : unpacking.previous = none → unpacking.entries = #[] ∧ unpacking.width = minWidth
  /-- The pending code names the pending string. Before the first byte there is none. -/
  pending : match packing.pending with
    | none => string = [] ∧ unpacking.previous = none
    | some code => Names (unpacking.awaiting string) code string

namespace InStep

variable {packing : Packing} {unpacking : Unpacking} {string : Bytes} {code : Nat}

/-- A code of the encoder has twelve bits at most. -/
theorem wide (h : InStep packing unpacking string) : packing.width ≤ maxWidth :=
  h.width ▸ unpacking.wide

/-- After a string the decoder makes the string of its own entries or the one it awaits. -/
theorem meaning (h : InStep packing unpacking string) (hp : packing.pending = some code)
    {previous : Bytes} (hprevious : unpacking.previous = some previous) :
    unpacking.meaning? previous code = some string := by
  have hnames := h.pending
  have hsome := h.previous previous hprevious
  rw [hp] at hnames
  dsimp only at hnames
  rw [Unpacking.awaiting, hprevious] at hnames
  dsimp only at hnames
  rw [Unpacking.meaning?, Unpacking.stringOf?]
  rcases hnames with ⟨hbyte, rfl⟩ | ⟨hfree, hknown⟩
  · rw [if_pos hbyte]
  · have hlong : ¬ code < 256 := Nat.not_lt.mpr (Nat.le_trans (by decide) hfree)
    rw [if_neg hlong, if_neg (Nat.not_lt.mpr hfree)]
    rw [Array.getElem?_push] at hknown
    split at hknown
    · -- the code names the string it completes, whose last byte is the first of the one before
      rename_i hlast
      have hstring := Option.some.inj hknown
      have hnew : unpacking.entries[code - firstFree]? = none := by
        rw [hlast]
        exact Array.getElem?_size
      have hcode : code = unpacking.free := by
        rw [Unpacking.free]
        omega
      rw [hnew]
      dsimp only
      rw [if_pos hcode, ← hstring]
      have htake : string.take 1 = previous.take 1 := by
        rw [← hstring, List.take_append_of_le_length (List.length_pos_iff.mpr hsome)]
      rw [htake]
    · rw [hknown]

/-- The decoder accepts the pending code and gives the pending string. It then has all entries that
the encoder has. -/
theorem accept (h : InStep packing unpacking string) (hp : packing.pending = some code) :
    ∃ next, unpacking.accept code = .string string next ∧ next.previous = some string ∧
      next.entries = unpacking.awaiting string ∧
      next.width = widened packing.width packing.free := by
  have hnames := h.pending
  rw [hp] at hnames
  dsimp only at hnames
  cases hprevious : unpacking.previous with
  | none =>
    obtain ⟨hnone, hnarrow⟩ := h.cleared hprevious
    have hsame : unpacking.awaiting string = unpacking.entries := by
      rw [Unpacking.awaiting, hprevious]
    rw [hsame, hnone] at hnames
    have hbyte : code < 256 ∧ string = [UInt8.ofNat code] := by
      rcases hnames with hbyte | ⟨-, hknown⟩
      · exact hbyte
      · cases hknown
    have hfree : packing.free = firstFree := by
      rw [h.free, hsame, hnone]
      rfl
    have hwidth : widened packing.width packing.free = unpacking.width := by
      rw [widened, h.width, hfree, hnarrow]
      rfl
    have hliteral : unpacking.stringOf? code = some string := by
      rw [Unpacking.stringOf?, if_pos hbyte.1, hbyte.2]
    exact ⟨_, Unpacking.accept_first hprevious hnames.ne_clear hnames.ne_end hliteral, rfl,
      hsame.symm, hwidth.symm⟩
  | some previous =>
    have haccept := Unpacking.accept_next hprevious hnames.ne_clear hnames.ne_end
      (h.meaning hp hprevious)
    have hsame : unpacking.awaiting string =
        unpacking.entries.push (previous ++ string.take 1) := by
      rw [Unpacking.awaiting, hprevious]
    have hfree := h.free
    have hlimit := h.limit
    rw [hsame, Array.size_push] at hfree
    have hroom : firstFree + unpacking.entries.size < codeLimit := by omega
    refine ⟨_, haccept, rfl, ?_, ?_⟩
    · exact (Unpacking.assign_entries hroom _).trans hsame.symm
    · rw [h.width, hfree]
      exact Unpacking.assign_width hroom _

/-- The pending code fits the width. -/
theorem code_lt (h : InStep packing unpacking string) (hp : packing.pending = some code) :
    code < twoTo packing.width := by
  have hnames := h.pending
  rw [hp] at hnames
  have hlt := hnames.lt
  rw [← h.free] at hlt
  exact Nat.lt_of_lt_of_le hlt h.fits

/-- A pending string has bytes. -/
theorem string_ne_nil (h : InStep packing unpacking string) (hp : packing.pending = some code) :
    string ≠ [] := by
  have hnames := h.pending
  rw [hp] at hnames
  exact hnames.ne_nil h.filled

/-- Behind a cleared table, a byte alone is pending. -/
theorem fresh (byte : UInt8) {packing : Packing} (htable : packing.table = ∅)
    (hfree : packing.free = firstFree) (hwidth : packing.width = minWidth)
    (hpending : packing.pending = some byte.toNat) : InStep packing {} [byte] where
  width := hwidth
  fits := by rw [hfree, hwidth]; decide
  free := hfree
  limit := by rw [hfree]; decide
  table := htable ▸ sound_empty _
  filled := nofun
  previous := nofun
  cleared := fun _ => ⟨rfl, rfl⟩
  pending := by rw [hpending]; exact .byte _ byte

/-- Taking the first byte keeps step. -/
theorem begin (h : InStep packing unpacking string) (hp : packing.pending = none) (byte : UInt8) :
    string = [] ∧ InStep { packing with pending := some byte.toNat } unpacking [byte] := by
  have hpending := h.pending
  rw [hp] at hpending
  obtain ⟨hnone, hprevious⟩ := hpending
  have hsame : unpacking.awaiting [byte] = unpacking.awaiting string := by
    rw [Unpacking.awaiting, Unpacking.awaiting, hprevious]
  refine ⟨hnone, h.width, h.fits, ?_, h.limit, ?_, ?_, h.previous, h.cleared,
    .byte _ byte⟩
  · rw [hsame]
    exact h.free
  · rw [hsame]
    exact h.table
  · rw [hsame]
    exact h.filled

/-- Taking a byte that leads to a longer known string keeps step. -/
theorem longer (h : InStep packing unpacking string) (hp : packing.pending = some code)
    {byte : UInt8} {longer : Nat} (hfound : packing.table[Packing.key code byte]? = some longer) :
    InStep { packing with pending := some longer } unpacking (string ++ [byte]) := by
  have hsome := h.string_ne_nil hp
  have hsame : unpacking.awaiting (string ++ [byte]) = unpacking.awaiting string := by
    rw [Unpacking.awaiting, Unpacking.awaiting,
      List.take_append_of_le_length (List.length_pos_iff.mpr hsome)]
  have hnames := h.pending
  rw [hp] at hnames
  obtain ⟨other, hother, hlonger⟩ := h.table code byte longer hfound
  rw [hother.unique hnames, ← hsame] at hlonger
  refine ⟨h.width, h.fits, ?_, h.limit, ?_, ?_, h.previous, h.cleared, hlonger⟩
  · rw [hsame]
    exact h.free
  · rw [hsame]
    exact h.table
  · rw [hsame]
    exact h.filled

end InStep

namespace Packing

variable {packing : Packing} {code : Nat} {byte : UInt8}

/-- When all codes are in use, a byte that leads to no known string sends the pending code and
clears the table. -/
theorem extend_of_full (hp : packing.pending = some code)
    (hmissing : packing.table[key code byte]? = none) (hfull : packing.free = codeLimit) :
    packing.extend byte =
      ({ pending := some byte.toNat
         held := (packing.held.push code packing.width).push clearCode packing.width
         ended := packing.ended }, true) := by
  obtain ⟨table, branches, free, width, pending, held, ended⟩ := packing
  dsimp only at hp hmissing hfull
  subst hp
  rw [extend]
  dsimp only
  rw [hmissing]
  exact congrArg (·, true) (if_pos hfull)

/-- As long as there are codes left, a byte that leads to no known string sends the pending code and
assigns one, which is entered if there is room in the small list. -/
theorem extend_of_room (hp : packing.pending = some code)
    (hmissing : packing.table[key code byte]? = none) (hroom : packing.free ≠ codeLimit) :
    packing.extend byte =
      ({ table := if packing.branches.getD code 0 = smallList then packing.table
          else packing.table.insert (key code byte) packing.free
         branches := packing.branches.insert code (packing.branches.getD code 0 + 1)
         free := packing.free + 1
         width := if packing.free = twoTo packing.width ∧ packing.width < maxWidth
          then packing.width + 1 else packing.width
         pending := some byte.toNat
         held := packing.held.push code packing.width
         ended := packing.ended }, true) := by
  obtain ⟨table, branches, free, width, pending, held, ended⟩ := packing
  dsimp only at hp hmissing hroom
  subst hp
  rw [extend]
  dsimp only
  rw [hmissing]
  exact congrArg (·, true) (if_neg hroom)

end Packing

namespace InStep

variable {packing : Packing} {unpacking next : Unpacking} {string : Bytes} {code : Nat}

/-- As long as there are codes left, the encoder's code and the decoder's widen together. -/
theorem widen (h : InStep packing unpacking string) :
    (if packing.free = twoTo packing.width ∧ packing.width < maxWidth then packing.width + 1
      else packing.width) = widened packing.width packing.free := by
  have hfits := h.fits
  have hsame : packing.free = twoTo packing.width ↔ twoTo packing.width ≤ packing.free :=
    ⟨fun heq => Nat.le_of_eq heq.symm, fun hle => Nat.le_antisymm hfits hle⟩
  rw [widened]
  simp only [hsame]

/-- One more code fits the widened code. -/
theorem widened_fits (h : InStep packing unpacking string) (hroom : packing.free ≠ codeLimit) :
    packing.free + 1 ≤ twoTo (widened packing.width packing.free) := by
  have hfits := h.fits
  have hpositive := twoTo_pos packing.width
  rw [widened]
  split
  · rw [twoTo_succ]
    omega
  · rename_i hsame
    refine Nat.lt_of_le_of_ne hfits fun hfull => hroom ?_
    have hwidth : packing.width = maxWidth :=
      Nat.le_antisymm h.wide (Nat.not_lt.mp fun hmore => hsame ⟨Nat.le_of_eq hfull.symm, hmore⟩)
    rw [hwidth] at hfull
    exact hfull

/-- When all codes are in use, codes have got as wide as they can. -/
theorem widened_of_full (h : InStep packing unpacking string) (hfull : packing.free = codeLimit) :
    widened packing.width packing.free = packing.width := by
  rw [widened, if_neg]
  rintro ⟨-, hmore⟩
  have hhalf : twoTo packing.width ≤ twoTo 11 := twoTo_le (Nat.le_of_lt_succ hmore)
  have hfits := Nat.le_trans h.fits hhalf
  rw [hfull] at hfits
  exact absurd hfits (by decide)

/-- Sending the pending code and assigning one keeps step, as long as there are codes left. -/
theorem assign (h : InStep packing unpacking string) (hp : packing.pending = some code)
    {byte : UInt8} (hmissing : packing.table[Packing.key code byte]? = none)
    (hroom : packing.free ≠ codeLimit) (hprevious : next.previous = some string)
    (hentries : next.entries = unpacking.awaiting string)
    (hwidth : next.width = widened packing.width packing.free) :
    InStep (packing.extend byte).1 next [byte] := by
  have hknown : next.awaiting [byte] = (unpacking.awaiting string).push (string ++ [byte]) := by
    rw [Unpacking.awaiting, hprevious, hentries]
    rfl
  have hnames := h.pending
  rw [hp] at hnames
  have hsome := h.string_ne_nil hp
  rw [Packing.extend_of_room hp hmissing hroom, h.widen]
  refine ⟨hwidth.symm, h.widened_fits hroom, ?_, ?_, ?_, ?_, ?_, ?_, .byte _ byte⟩
  · rw [hknown, Array.size_push, ← Nat.add_assoc, ← h.free]
  · have hlimit := h.limit
    dsimp only
    omega
  · rw [hknown]
    dsimp only
    split
    · exact h.table.push _
    · rw [h.free]
      exact h.table.insert hnames byte
  · intro entry hentry
    rw [hknown] at hentry
    rcases Array.mem_push.mp hentry with hold | rfl
    · exact h.filled entry hold
    · exact List.append_ne_nil_of_left_ne_nil hsome _
  · intro previous hsame
    rw [hprevious] at hsame
    exact Option.some.inj hsame ▸ hsome
  · intro hnone
    rw [hprevious] at hnone
    cases hnone

end InStep

end ContentCoding.Lzw
