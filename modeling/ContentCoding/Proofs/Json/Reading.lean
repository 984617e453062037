import ContentCoding.Proofs.Json.Skipping

/-!
# Strings and integers are read

The readers of strings and integers give what the grammar says that a text stands for. A string is
read with its escapes resolved, and two escapes of a pair of surrogates become one character.
Digits are collected as long as their number fits 64 bits, so an integer between bounds that do is
read exactly.

The numerals that integers are written as are numerals of the grammar. They have no leading zeros
and never are a negative zero, which would be read as a double.
-/

namespace ContentCoding.Json

variable {text rest chars digits : List Char} {c : Char}

/-! ### Strings -/

/-- A code unit that is no surrogate is a code point. -/
theorem HexUnit.readCodePoint {unit : Nat} (h : HexUnit digits unit)
    (alone : unit < 0xD800 ∨ 0xDFFF < unit) (rest : List Char) :
    readCodePoint (digits ++ rest) = .ok (unit, rest) := by
  have htrailing : ¬(0xDC00 ≤ unit ∧ unit ≤ 0xDFFF) := by omega
  have hleading : ¬(0xD800 ≤ unit ∧ unit ≤ 0xDBFF) := by omega
  simp only [Json.readCodePoint, h.read, if_neg htrailing, if_neg hleading]

/-- A leading surrogate is read along with the trailing one behind it. -/
theorem readCodePoint_pair {leading trailing : List Char} {high low : Nat}
    (hhigh : HexUnit leading high) (hlow : HexUnit trailing low)
    (first : 0xD800 ≤ high ∧ high ≤ 0xDBFF) (second : 0xDC00 ≤ low ∧ low ≤ 0xDFFF)
    (rest : List Char) :
    readCodePoint (leading ++ '\\' :: 'u' :: (trailing ++ rest)) =
      .ok (0x10000 + (high - 0xD800) * 0x400 + (low - 0xDC00), rest) := by
  have htrailing : ¬(0xDC00 ≤ high ∧ high ≤ 0xDFFF) := by omega
  simp only [readCodePoint, hhigh.read, if_neg htrailing, if_pos first, readTrailing, hlow.read,
    if_pos second]

/-- A character that stands for itself is read. -/
theorem Plain.read (h : Plain c) (fuel : Nat) (rest done : List Char) :
    readStringFor (fuel + 1) (c :: rest) done = readStringFor fuel rest (c :: done) := by
  obtain ⟨hvisible, hquote, hescape⟩ := h
  rw [readStringFor, if_neg (Nat.not_lt.mpr hvisible)]
  · exact hquote
  · exact fun hsame _ => hescape hsame
  · exact fun _ hsame _ => hescape hsame
  · exact fun _ _ hsame _ => hescape hsame

/-- A simple escape is read as the character that it stands for. -/
theorem read_escape {d : Char} (h : simpleEscape? c = some d) (fuel : Nat)
    (rest done : List Char) :
    readStringFor (fuel + 1) ('\\' :: c :: rest) done = readStringFor fuel rest (d :: done) := by
  rw [readStringFor, h]
  rintro rfl
  cases h

/-- An escape of code units is read as the character of their code point. -/
theorem read_codePoint {code : Nat} (h : readCodePoint text = .ok (code, rest)) (fuel : Nat)
    (done : List Char) :
    readStringFor (fuel + 1) ('\\' :: 'u' :: text) done =
      readStringFor fuel rest (Char.ofNat code :: done) := by
  rw [readStringFor, h]

/-- The rest of a string is read as the characters that it spells. -/
theorem Spells.read (h : Spells text chars) (rest : List Char) :
    readString (text ++ rest) = .ok (String.ofList chars, rest) := by
  -- One step takes at least one character, and puts one on those that are done.
  have hfor : ∀ fuel done, text.length ≤ fuel →
      readStringFor fuel (text ++ rest) done = .ok (String.ofList (done.reverse ++ chars), rest) := by
    induction h with
    | close =>
      intro fuel done hfuel
      obtain ⟨fuel, rfl⟩ := Nat.exists_eq_add_of_le' hfuel
      rw [List.append_nil]
      rfl
    | @plain c text chars h later ih =>
      intro fuel done hfuel
      rw [List.length_cons] at hfuel
      obtain ⟨fuel, rfl⟩ := Nat.exists_eq_add_of_le' (Nat.le_trans (Nat.le_add_left 1 _) hfuel)
      rw [List.cons_append, h.read, ih fuel _ (by omega), List.reverse_cons,
        List.append_assoc, List.singleton_append]
    | @escape c d text chars h later ih =>
      intro fuel done hfuel
      rw [List.length_cons, List.length_cons] at hfuel
      obtain ⟨fuel, rfl⟩ := Nat.exists_eq_add_of_le' (Nat.le_trans (Nat.le_add_left 1 _) hfuel)
      rw [List.cons_append, List.cons_append, read_escape h, ih fuel _ (by omega),
        List.reverse_cons, List.append_assoc, List.singleton_append]
    | @unit digits text chars unit h alone later ih =>
      intro fuel done hfuel
      rw [List.length_cons, List.length_cons, List.length_append] at hfuel
      obtain ⟨fuel, rfl⟩ := Nat.exists_eq_add_of_le' (Nat.le_trans (Nat.le_add_left 1 _) hfuel)
      rw [List.cons_append, List.cons_append, List.append_assoc,
        read_codePoint (h.readCodePoint alone _), ih fuel _ (by omega), List.reverse_cons,
        List.append_assoc, List.singleton_append]
    | @pair leading trailing text chars high low hhigh hlow first second later ih =>
      intro fuel done hfuel
      simp only [List.length_cons, List.length_append] at hfuel
      obtain ⟨fuel, rfl⟩ := Nat.exists_eq_add_of_le' (Nat.le_trans (Nat.le_add_left 1 _) hfuel)
      have hcode := readCodePoint_pair hhigh hlow first second (text ++ rest)
      simp only [List.cons_append, List.append_assoc]
      rw [read_codePoint hcode, ih fuel _ (by omega), List.reverse_cons, List.append_assoc,
        List.singleton_append]
  refine hfor _ [] ?_
  rw [List.length_append]
  omega

/-! ### Integers -/

/-- A digit has a value. -/
theorem digit?_of_isDigit (hc : isDigit c = true) : digit? c = some (c.toNat - '0'.toNat) :=
  if_pos (isDigit_iff.mp hc)

/-- What is no digit has none. -/
theorem digit?_of_not_isDigit (hc : isDigit c = false) : digit? c = none :=
  if_neg fun h => Bool.false_ne_true (hc.symm.trans (isDigit_iff.mpr h))

/-- More digits never make a number less. -/
theorem le_ofDigitChars (digits : List Char) (value : Nat) :
    value ≤ Nat.ofDigitChars 10 digits value := by
  rw [Nat.ofDigitChars_eq_ofDigitChars_zero]
  have hpos : 1 ≤ 10 ^ digits.length := Nat.one_le_pow _ _ (by decide)
  calc value = 1 * value := (Nat.one_mul _).symm
    _ ≤ 10 ^ digits.length * value := Nat.mul_le_mul_right _ hpos
    _ ≤ _ := Nat.le_add_right _ _

/-- Digits are collected if their number fits. -/
theorem collectDigits_append (hdigits : ∀ c ∈ digits, isDigit c = true) (hrest : Delimited rest)
    {significand : Nat} (hfits : Nat.ofDigitChars 10 digits significand < wordLimit) (taken : Nat) :
    collectDigits significand taken (digits ++ rest) =
      ⟨Nat.ofDigitChars 10 digits significand, taken + digits.length, rest⟩ := by
  induction digits generalizing significand taken with
  | nil =>
    cases rest with
    | nil => rfl
    | cons c rest =>
      rw [List.nil_append, collectDigits, digit?_of_not_isDigit hrest.head.1]
      rfl
  | cons c digits ih =>
    have hvalue := digit?_of_isDigit (hdigits c List.mem_cons_self)
    rw [Nat.ofDigitChars_cons, Nat.mul_comm] at hfits ⊢
    have hroom : ¬wordLimit ≤ significand * 10 + (c.toNat - '0'.toNat) :=
      Nat.not_le.mpr (Nat.lt_of_le_of_lt (le_ofDigitChars digits _) hfits)
    rw [List.cons_append, collectDigits, hvalue]
    simp only [if_neg hroom]
    rw [ih (fun d hd => hdigits d (List.mem_cons_of_mem _ hd)) hfits, List.length_cons,
      Nat.add_assoc, Nat.add_comm 1]

/-- Nothing of a number is left where a value ends. -/
theorem readTail_delimited (hrest : Delimited rest) (positive : Bool) (significand : Nat) :
    readTail positive significand rest = .ok (integerOf positive significand, rest) := by
  rw [readTail.eq_def]
  cases rest with
  | nil => rfl
  | cons c rest =>
    obtain ⟨-, hpoint, hlower, hupper⟩ := hrest.head
    split
    all_goals simp_all

/-- A natural number that fits is read behind its sign. -/
theorem Whole.read (h : Whole digits) (hrest : Delimited rest)
    (hfits : Nat.ofDigitChars 10 digits 0 < wordLimit) (positive : Bool) :
    readNumber positive (digits ++ rest) =
      .ok (integerOf positive (Nat.ofDigitChars 10 digits 0), rest) := by
  have hcollect := collectDigits_append h.digits.2 hrest hfits 0
  have hstop := no_digit_head hrest.no_digit
  obtain ⟨c, more, rfl, hc, -⟩ := h.digits.exists_cons
  by_cases hzero : c = '0'
  · subst hzero
    obtain rfl : more = [] := (List.cons.inj (h.trimmed rfl)).2
    rw [List.singleton_append, readNumber, hstop, if_neg Bool.false_ne_true]
    exact readTail_delimited hrest positive 0
  · rw [List.cons_append] at hcollect ⊢
    rw [readNumber, if_pos hc, hcollect]
    · simp only [hstop, Bool.false_eq_true, if_false]
      exact readTail_delimited hrest positive _
    · exact hzero

/-- Where a digit comes first, a number without a sign is read. -/
theorem readNumberFor_digit {space : List Char} (hspace : Space space) (hc : isDigit c = true)
    (expected : String) (rest : List Char) :
    readNumberFor expected (space ++ c :: rest) = readNumber true (c :: rest) := by
  rw [readNumberFor, skipSpace_cons hspace (isDigit_ne hc).2.2.2.2.2]
  split
  · rename_i hsplit
    cases hsplit
  · rename_i hsplit
    exact absurd (List.cons.inj hsplit).1 (isDigit_ne hc).2.1
  · rename_i hsplit
    obtain ⟨rfl, rfl⟩ := List.cons.inj hsplit
    exact if_pos hc

/-- An integer between bounds of at most 64 bits is read. -/
theorem Numeral.read {numeral space : List Char} {value least greatest : Int}
    (h : Numeral numeral value) (hspace : Space space) (hrest : Delimited rest)
    (hleast : -(twoTo 63 : Int) ≤ least) (hgreatest : greatest < wordLimit)
    (hvalue : least ≤ value ∧ value ≤ greatest) (expected : String) :
    readInteger least greatest expected (space ++ (numeral ++ rest)) = .ok (value, rest) := by
  cases h with
  | natural h =>
    have hfits : Nat.ofDigitChars 10 numeral 0 < wordLimit := by omega
    have hnumber := h.read hrest hfits true
    obtain ⟨c, more, rfl, hc, -⟩ := h.digits.exists_cons
    rw [readInteger, List.cons_append, readNumberFor_digit hspace hc, ← List.cons_append, hnumber]
    exact if_pos hvalue
  | @negative digits h nonzero =>
    have hsmall : Nat.ofDigitChars 10 digits 0 ≤ twoTo 63 := by omega
    have hfits : Nat.ofDigitChars 10 digits 0 < wordLimit :=
      Nat.lt_of_le_of_lt hsmall (by decide)
    have hnumber : readNumberFor expected (space ++ ('-' :: digits ++ rest)) =
        .ok (.negative (-(Nat.ofDigitChars 10 digits 0 : Int)), rest) := by
      have hsign : skipSpace (space ++ '-' :: (digits ++ rest)) = '-' :: (digits ++ rest) :=
        skipSpace_cons hspace (by rfl) _
      have hexact : ¬(Nat.ofDigitChars 10 digits 0 = 0 ∨
          twoTo 63 < Nat.ofDigitChars 10 digits 0) := by omega
      rw [readNumberFor, List.cons_append, hsign]
      simp only [h.read hrest hfits, integerOf, Bool.false_eq_true, if_false, if_neg hexact]
    rw [readInteger, hnumber]
    exact if_pos hvalue

/-! ### How integers are written -/

/-- The digits of a number begin with a zero only if there is no other. -/
theorem toDigits_trimmed (n : Nat) (hzero : (Nat.toDigits 10 n).head? = some '0') :
    Nat.toDigits 10 n = ['0'] := by
  induction n using Nat.strongRecOn with
  | ind n ih =>
    rw [Nat.toDigits_eq_if (by decide)] at hzero ⊢
    by_cases hsmall : n < 10
    · rw [if_pos hsmall] at hzero ⊢
      rw [Option.some.inj hzero]
    · rw [if_neg hsmall, List.head?_append, List.head?_eq_some_head Nat.toDigits_ne_nil,
        Option.some_or, ← List.head?_eq_some_head] at hzero
      have hlead := ih (n / 10) (by omega) hzero
      have hvalue : Nat.ofDigitChars 10 (Nat.toDigits 10 (n / 10)) 0 = n / 10 :=
        Nat.ofDigitChars_ten_toDigits
      rw [hlead] at hvalue
      have hnone : Nat.ofDigitChars 10 ['0'] 0 = 0 := rfl
      omega

/-- The digits of a number are a natural number of the grammar. -/
theorem whole_toDigits (n : Nat) : Whole (Nat.toDigits 10 n) where
  digits :=
    ⟨Nat.toDigits_ne_nil, fun _ hc => Nat.isDigit_of_mem_toDigits (by decide) (by decide) hc⟩
  trimmed := toDigits_trimmed n

/-- A natural number is written as a numeral that stands for it. -/
theorem numeral_natural (n : Nat) : Numeral (toString n).toList n := by
  have hnumeral := Numeral.natural (whole_toDigits n)
  rw [Nat.ofDigitChars_ten_toDigits] at hnumeral
  rwa [Nat.toString_eq_ofList_toDigits, String.toList_ofList]

/-- And so is any integer. -/
theorem numeral_integer (value : Int) : Numeral (toString value).toList value := by
  cases value with
  | ofNat n => exact numeral_natural n
  | negSucc n =>
    have hvalue : Nat.ofDigitChars 10 (Nat.toDigits 10 (n + 1)) 0 = n + 1 :=
      Nat.ofDigitChars_ten_toDigits
    have hnumeral := Numeral.negative (whole_toDigits (n + 1)) (by omega)
    have hwritten : (toString (Int.negSucc n)).toList = '-' :: Nat.toDigits 10 (n + 1) := by
      have hsign : toString (Int.negSucc n) = "-" ++ toString (n + 1) := rfl
      rw [hsign, Nat.toString_eq_ofList_toDigits, String.toList_append, String.toList_ofList,
        String.toList_ofList]
      rfl
    rw [hwritten, Int.negSucc_eq]
    rwa [hvalue] at hnumeral

end ContentCoding.Json
