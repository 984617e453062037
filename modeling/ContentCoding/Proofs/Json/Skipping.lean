import ContentCoding.Proofs.Json.Grammar

/-!
# Values are passed over

The skipper of unknown fields has a stack of open brackets and goes on behind a value inside the
innermost one. What a value of the grammar comes to is therefore a statement about any stack: from
before the value the skipper gets to behind it, the stack unchanged, in so many steps that twice
the length of the value bounds them. For what stands in a bracket the same holds from behind the
opening, and from the comma before the items. The two are proved together along the grammar.

So a value of any depth is passed over as a whole, whatever brackets its strings may hold.
-/

namespace ContentCoding.Json

variable {text rest digits : List Char} {c : Char}

/-! ### Numbers -/

/-- Digits are passed over up to what is none. -/
theorem dropWhile_digits (h : ∀ c ∈ digits, isDigit c = true)
    (hrest : ∀ c ∈ rest.head?, isDigit c = false) : (digits ++ rest).dropWhile isDigit = rest := by
  rw [List.dropWhile_append_of_pos h]
  cases rest with
  | nil => rfl
  | cons c rest => exact List.dropWhile_cons_of_neg (by simp [hrest c rfl])

/-- No digit follows a value. -/
theorem Delimited.no_digit (h : Delimited rest) : ∀ c ∈ rest.head?, isDigit c = false := by
  cases rest with
  | nil => exact nofun
  | cons c rest =>
    intro d hd
    obtain rfl : c = d := by simpa using hd
    exact h.head.1

/-- So the first character behind them, if there is one, is none. -/
theorem no_digit_head (hrest : ∀ c ∈ rest.head?, isDigit c = false) :
    (rest.head?.map isDigit).getD false = false := by
  cases rest with
  | nil => rfl
  | cons c rest => exact hrest c rfl

/-- Digits begin with a digit. -/
theorem Digits.exists_cons (h : Digits digits) :
    ∃ c more, digits = c :: more ∧ isDigit c = true ∧ ∀ d ∈ more, isDigit d = true := by
  obtain ⟨hsome, hdigits⟩ := h
  obtain ⟨c, more, rfl⟩ := List.exists_cons_of_ne_nil hsome
  exact ⟨c, more, rfl, hdigits c List.mem_cons_self,
    fun d hd => hdigits d (List.mem_cons_of_mem _ hd)⟩

/-- A digit is no sign, no point, no letter and no white space. -/
theorem isDigit_ne (h : isDigit c = true) :
    c ≠ '+' ∧ c ≠ '-' ∧ c ≠ '.' ∧ c ≠ 'e' ∧ c ≠ 'E' ∧ isSpace c = false := by
  have hne : ∀ d, isDigit d = false → c ≠ d := by
    rintro d hd rfl
    rw [h] at hd
    cases hd
  refine ⟨hne _ rfl, hne _ rfl, hne _ rfl, hne _ rfl, hne _ rfl, ?_⟩
  simp only [isSpace, Bool.or_eq_false_iff, beq_eq_false_iff_ne]
  exact ⟨⟨⟨hne _ rfl, hne _ rfl⟩, hne _ rfl⟩, hne _ rfl⟩

/-- An exponent behind its letter is passed over. -/
theorem skipExponent_append {sign : List Char} (hsign : sign = [] ∨ sign = ['+'] ∨ sign = ['-'])
    (h : Digits digits) (hrest : Delimited rest) :
    skipExponent (sign ++ digits ++ rest) = .ok rest := by
  obtain ⟨c, more, rfl, hc, hmore⟩ := h.exists_cons
  obtain ⟨hplus, hminus, -⟩ := isDigit_ne hc
  have hdrop := dropWhile_digits hmore hrest.no_digit
  have hbare : skipExponent (c :: (more ++ rest)) = .ok rest := by
    unfold skipExponent
    split
    · rename_i hsplit
      exact absurd (List.cons.inj hsplit).1 hplus
    · rename_i hsplit
      exact absurd (List.cons.inj hsplit).1 hminus
    · simp only [hc, if_true, hdrop]
  rcases hsign with rfl | rfl | rfl
  · exact hbare
  · simp [skipExponent, hc, hdrop]
  · simp [skipExponent, hc, hdrop]

/-- What stands behind a fraction is passed over. -/
theorem skipTail_exponent {exponent : List Char} (h : Exponent exponent) (hrest : Delimited rest) :
    skipTail (exponent ++ rest) = .ok rest := by
  cases h with
  | none =>
    rw [List.nil_append, skipTail.eq_def]
    cases rest with
    | nil => rfl
    | cons c rest =>
      obtain ⟨-, hpoint, hlower, hupper⟩ := hrest.head
      split
      all_goals simp_all
  | @scale letter sign digits hletter hsign h =>
    have hskip := skipExponent_append hsign h hrest
    rcases hletter with rfl | rfl <;> exact hskip

/-- What may stand behind digits begins with no digit. -/
theorem Exponent.no_digit {exponent : List Char} (h : Exponent exponent) (hrest : Delimited rest) :
    ∀ c ∈ (exponent ++ rest).head?, isDigit c = false := by
  cases h with
  | none => exact hrest.no_digit
  | @scale letter sign digits hletter hsign h =>
    intro d hd
    obtain rfl : letter = d := by simpa using hd
    rcases hletter with rfl | rfl <;> rfl

/-- Nor with a point. -/
theorem Exponent.no_point {exponent : List Char} (h : Exponent exponent) (hrest : Delimited rest) :
    ∀ c ∈ (exponent ++ rest).head?, c ≠ '.' := by
  intro d hd
  cases h with
  | none =>
    cases rest with
    | nil => cases hd
    | cons c rest =>
      obtain rfl : c = d := by simpa using hd
      exact hrest.head.2.1
  | @scale letter sign digits hletter hsign h =>
    obtain rfl : letter = d := by simpa using hd
    rcases hletter with rfl | rfl <;> decide

/-- What may stand behind an integer part begins with no digit either. -/
theorem Fraction.no_digit {fraction exponent : List Char} (hfraction : Fraction fraction)
    (hexponent : Exponent exponent) (hrest : Delimited rest) :
    ∀ c ∈ (fraction ++ (exponent ++ rest)).head?, isDigit c = false := by
  cases hfraction with
  | none => exact hexponent.no_digit hrest
  | @point digits h =>
    intro d hd
    obtain rfl : '.' = d := by simpa using hd
    rfl

/-- Digits behind a point are passed over along with it, up to where no other point is. -/
theorem skipTail_point (hc : isDigit c = true)
    (hpoint : ∀ d ∈ (rest.dropWhile isDigit).head?, d ≠ '.') :
    skipTail ('.' :: c :: rest) = skipTail (rest.dropWhile isDigit) := by
  generalize hdrop : rest.dropWhile isDigit = after at hpoint
  rw [skipTail.eq_def, skipTail.eq_def after]
  simp only [hc, if_true, hdrop]
  split
  · rfl
  · rfl
  · rename_i hlower hupper
    split
    · exact (hlower _ rfl).elim
    · exact (hupper _ rfl).elim
    · exact absurd rfl (hpoint '.' rfl)
    · exact absurd rfl (hpoint '.' rfl)
    · rfl

/-- What stands behind the integer part of a number is passed over. -/
theorem skipTail_append {fraction exponent : List Char} (hfraction : Fraction fraction)
    (hexponent : Exponent exponent) (hrest : Delimited rest) :
    skipTail (fraction ++ (exponent ++ rest)) = .ok rest := by
  cases hfraction with
  | none => exact skipTail_exponent hexponent hrest
  | @point digits h =>
    obtain ⟨c, more, rfl, hc, hmore⟩ := h.exists_cons
    have hdrop := dropWhile_digits hmore (hexponent.no_digit hrest)
    have hpoint := skipTail_point hc (by rw [hdrop]; exact hexponent.no_point hrest)
    rw [hdrop] at hpoint
    exact hpoint.trans (skipTail_exponent hexponent hrest)

/-- A number is passed over. -/
theorem Magnitude.skip {number : List Char} (h : Magnitude number) (hrest : Delimited rest) :
    skipNumber (number ++ rest) = .ok rest := by
  obtain ⟨hwhole, hfraction, hexponent⟩ := h
  rename_i whole fraction exponent
  have htail := skipTail_append hfraction hexponent hrest
  have hstop := hfraction.no_digit hexponent hrest
  rw [List.append_assoc, List.append_assoc]
  obtain ⟨c, more, rfl, hc, hmore⟩ := hwhole.digits.exists_cons
  by_cases hzero : c = '0'
  · subst hzero
    obtain rfl : more = [] := (List.cons.inj (hwhole.trimmed rfl)).2
    rw [List.singleton_append, skipNumber, no_digit_head hstop, if_neg Bool.false_ne_true]
    exact htail
  · have hdrop := dropWhile_digits hmore hstop
    rw [List.cons_append, skipNumber, if_pos hc, hdrop]
    · exact htail
    · exact hzero

/-! ### Strings -/

/-- Four hexadecimal digits are read as the number they stand for. -/
theorem HexUnit.read {unit : Nat} (h : HexUnit digits unit) (rest : List Char) :
    readHex (digits ++ rest) = .ok (unit, rest) := by
  obtain ⟨ha, hb, hc, hd⟩ := h
  simp only [List.cons_append, List.nil_append, readHex, ha, hb, hc, hd]

/-- A character that stands for itself is passed over. -/
theorem Plain.skip (h : Plain c) (fuel : Nat) (rest : List Char) :
    skipStringFor (fuel + 1) (c :: rest) = skipStringFor fuel rest := by
  obtain ⟨hvisible, hquote, hescape⟩ := h
  rw [skipStringFor, if_neg (Nat.not_lt.mpr hvisible)]
  · exact hquote
  · exact fun hsame _ => hescape hsame
  · exact fun _ hsame _ => hescape hsame
  · exact fun _ _ hsame _ => hescape hsame

/-- An escape of a character is passed over. -/
theorem skip_escape {d : Char} (h : simpleEscape? c = some d) (fuel : Nat) (rest : List Char) :
    skipStringFor (fuel + 1) ('\\' :: c :: rest) = skipStringFor fuel rest := by
  rw [skipStringFor, h]
  rintro rfl
  cases h

/-- The rest of a string is passed over. -/
theorem Quoted.skip {text : List Char} (h : Quoted text) (rest : List Char) :
    skipString (text ++ rest) = .ok rest := by
  have hfor : ∀ fuel, text.length ≤ fuel → skipStringFor fuel (text ++ rest) = .ok rest := by
    induction h with
    | close =>
      intro fuel hfuel
      obtain ⟨fuel, rfl⟩ := Nat.exists_eq_add_of_le' hfuel
      rfl
    | @plain c text h later ih =>
      intro fuel hfuel
      rw [List.length_cons] at hfuel
      obtain ⟨fuel, rfl⟩ := Nat.exists_eq_add_of_le' (Nat.le_trans (Nat.le_add_left 1 _) hfuel)
      rw [List.cons_append, h.skip]
      exact ih fuel (Nat.le_of_succ_le_succ hfuel)
    | @escape c d text h later ih =>
      intro fuel hfuel
      rw [List.length_cons, List.length_cons] at hfuel
      obtain ⟨fuel, rfl⟩ := Nat.exists_eq_add_of_le' (Nat.le_trans (Nat.le_add_left 1 _) hfuel)
      rw [List.cons_append, List.cons_append, skip_escape h]
      exact ih fuel (by omega)
    | @unit digits text unit h later ih =>
      intro fuel hfuel
      rw [List.length_cons, List.length_cons, List.length_append] at hfuel
      obtain ⟨fuel, rfl⟩ := Nat.exists_eq_add_of_le' (Nat.le_trans (Nat.le_add_left 1 _) hfuel)
      rw [List.cons_append, List.cons_append, List.append_assoc, skipStringFor, h.read]
      exact ih fuel (by omega)
  rw [skipString]
  refine hfor _ ?_
  rw [List.length_append]
  omega

/-! ### Values -/

/-- A word is read off the text. -/
theorem readWord_append (word rest : List Char) : readWord word (word ++ rest) = .ok rest := by
  induction word with
  | nil => cases rest <;> rfl
  | cons c word ih => rw [List.cons_append, readWord, if_pos rfl, ih]

/-- White space before a value is passed over along with it. -/
theorem skipValueFor_space {space : List Char} (h : Space space) (fuel : Nat)
    (brackets : List Bracket) (text : List Char) :
    skipValueFor fuel brackets (space ++ text) = skipValueFor fuel brackets text := by
  cases fuel with
  | zero => rfl
  | succ fuel => rw [skipValueFor, skipValueFor, skipHead, skipHead, skipSpace_skip h]

/-- Where a digit comes first, a number is passed over. -/
theorem skipHead_of_digit (hc : isDigit c = true) (rest : List Char) :
    skipHead (c :: rest) =
      match skipNumber (c :: rest) with
      | .error error => .error error
      | .ok rest => .ok (.scalar rest) := by
  have hne : ∀ d, isDigit d = false → c ≠ d := by
    rintro d hd rfl
    rw [hc] at hd
    cases hd
  rw [skipHead.eq_def, skipSpace_of_head (isDigit_ne hc).2.2.2.2.2]
  split
  · rename_i hsplit
    cases hsplit
  case h_9 =>
    rename_i hsplit
    obtain ⟨rfl, rfl⟩ := List.cons.inj hsplit
    exact if_pos hc
  all_goals
    rename_i hsplit
    exact absurd (List.cons.inj hsplit).1 (hne _ rfl)

/-- A value with no parts is passed over at once. -/
def Scalar (text : List Char) : Prop :=
  ∀ rest, Delimited rest → skipHead (text ++ rest) = .ok (.scalar rest)

/-- Numbers have no parts. -/
theorem Magnitude.scalar (h : Magnitude text) : Scalar text := by
  intro rest hrest
  have hskip := h.skip hrest
  obtain ⟨hwhole, hfraction, hexponent⟩ := h
  obtain ⟨c, more, rfl, hc, -⟩ := hwhole.digits.exists_cons
  rw [List.cons_append, List.cons_append] at hskip ⊢
  rw [skipHead_of_digit hc, hskip]

/-- With a sign they have none either. -/
theorem Magnitude.negative_scalar (h : Magnitude text) : Scalar ('-' :: text) := by
  intro rest hrest
  have hskip := h.skip hrest
  rw [List.cons_append, skipHead, skipSpace_of_head (by rfl)]
  simp only [hskip]

/-- Strings have no parts. -/
theorem Quoted.scalar (h : Quoted text) : Scalar ('"' :: text) := by
  intro rest hrest
  rw [List.cons_append, skipHead, skipSpace_of_head (by rfl)]
  simp only [h.skip rest]

/-- Words have no parts. -/
theorem scalar_words : Scalar ['n', 'u', 'l', 'l'] ∧ Scalar ['t', 'r', 'u', 'e'] ∧
    Scalar ['f', 'a', 'l', 's', 'e'] := by
  refine ⟨fun rest _ => ?_, fun rest _ => ?_, fun rest _ => ?_⟩
  · have hword := readWord_append ['u', 'l', 'l'] rest
    rw [List.cons_append, skipHead, skipSpace_of_head (by rfl)]
    simp only [hword]
  · have hword := readWord_append ['r', 'u', 'e'] rest
    rw [List.cons_append, skipHead, skipSpace_of_head (by rfl)]
    simp only [hword]
  · have hword := readWord_append ['a', 'l', 's', 'e'] rest
    rw [List.cons_append, skipHead, skipSpace_of_head (by rfl)]
    simp only [hword]

/-- A bracket opens. -/
theorem skipHead_opening (bracket : Bracket) (rest : List Char) :
    skipHead (bracket.opening :: rest) = .ok (.opened bracket rest) := by
  cases bracket <;> rfl

/-- White space is passed over inside brackets. -/
theorem skipAfterFor_space {space : List Char} (h : Space space) (fuel : Nat) (after : Bool)
    (bracket : Bracket) (brackets : List Bracket) (text : List Char) :
    skipAfterFor fuel after (bracket :: brackets) (space ++ text) =
      skipAfterFor fuel after (bracket :: brackets) text := by
  cases fuel with
  | zero => rfl
  | succ fuel => rw [skipAfterFor, skipAfterFor, skipSpace_skip h]

/-- A bracket closes. -/
theorem skipAfterFor_closing (fuel : Nat) (after : Bool) (bracket : Bracket)
    (brackets : List Bracket) (rest : List Char) :
    skipAfterFor (fuel + 1) after (bracket :: brackets) (bracket.closing :: rest) =
      skipAfterFor fuel true brackets rest := by
  rw [skipAfterFor, skipSpace_of_head bracket.closing_spec.1]
  exact if_pos rfl

/-- What stands before a value in a bracket is passed over. -/
theorem Key.skip {bracket : Bracket} {key : List Char} (h : Key bracket key) (rest : List Char) :
    skipKey bracket (key ++ rest) = .ok rest := by
  cases h with
  | list => rfl
  | @object before key between hbefore hkey hbetween =>
    have hopen : skipSpace (before ++ '"' :: (key ++ (between ++ ':' :: rest))) =
        '"' :: (key ++ (between ++ ':' :: rest)) := skipSpace_cons hbefore (by rfl) _
    have hcolon : skipSpace (between ++ ':' :: rest) = ':' :: rest :=
      skipSpace_cons hbetween (by rfl) _
    simp only [List.append_assoc, List.cons_append, List.nil_append, skipKey, hopen, hkey.skip,
      hcolon]

/-- What a text begins with that is a value. -/
def Begins (text : List Char) : Prop :=
  ∃ c more, text = c :: more ∧ isSpace c = false ∧ c ≠ ']' ∧ c ≠ '\x7d'

/-- A value begins with a character that opens it. -/
theorem Value.begins (h : Value text) : Begins text := by
  cases h with
  | null => exact ⟨_, _, rfl, by decide⟩
  | yes => exact ⟨_, _, rfl, by decide⟩
  | no => exact ⟨_, _, rfl, by decide⟩
  | positive h =>
    obtain ⟨hwhole, hfraction, hexponent⟩ := h
    obtain ⟨c, more, rfl, hc, -⟩ := hwhole.digits.exists_cons
    refine ⟨c, _, rfl, (isDigit_ne hc).2.2.2.2.2, ?_, ?_⟩
    · rintro rfl
      cases hc
    · rintro rfl
      cases hc
  | negative h => exact ⟨_, _, rfl, by decide⟩
  | string h => exact ⟨_, _, rfl, by decide⟩
  | empty bracket h => exact ⟨_, _, rfl, by cases bracket <;> decide⟩
  | @filled bracket items h => exact ⟨_, _, rfl, by cases bracket <;> decide⟩

section Entering

variable {bracket : Bracket} {key before : List Char}

/-- The first item of a bracket does not begin with its end, and its key is passed over. -/
theorem Key.skip_first (hkey : Key bracket key) (hbefore : Space before) (htext : Begins text)
    (rest : List Char) :
    ∃ c more, skipSpace (key ++ (before ++ (text ++ rest))) = c :: more ∧ c ≠ bracket.closing ∧
      ∃ space, Space space ∧ skipKey bracket (c :: more) = .ok (space ++ (text ++ rest)) := by
  obtain ⟨first, others, rfl, hspace, hlist, hobject⟩ := htext
  have hfirst : skipSpace (before ++ (first :: others ++ rest)) = first :: others ++ rest :=
    skipSpace_cons hbefore hspace _
  cases hkey with
  | list => exact ⟨first, others ++ rest, hfirst, hlist, [], nofun, rfl⟩
  | @object early string between hearly hstring hbetween =>
    have hskip := (@Key.object [] _ _ nofun hstring hbetween).skip
      (before ++ (first :: others ++ rest))
    refine ⟨'"', _, ?_, by decide, before, hbefore, hskip⟩
    simpa using skipSpace_cons hearly (by rfl) _

/-- The first value in a bracket is entered. -/
theorem enter_first (hkey : Key bracket key) (hbefore : Space before) (htext : Begins text)
    (fuel : Nat) (brackets : List Bracket) (rest : List Char) :
    skipAfterFor (fuel + 1) false (bracket :: brackets) (key ++ (before ++ (text ++ rest))) =
      skipValueFor fuel (bracket :: brackets) (text ++ rest) := by
  obtain ⟨c, more, hopen, hc, space, hspace, hskip⟩ := hkey.skip_first hbefore htext rest
  rw [skipAfterFor, hopen]
  simp only [if_neg hc, Bool.false_eq_true, false_and, if_false, hskip,
    skipValueFor_space hspace]

/-- A later value is entered behind its comma. -/
theorem enter_later (hkey : Key bracket key) (hbefore : Space before) (fuel : Nat)
    (brackets : List Bracket) (rest : List Char) :
    skipAfterFor (fuel + 1) true (bracket :: brackets) (',' :: (key ++ (before ++ (text ++ rest)))) =
      skipValueFor fuel (bracket :: brackets) (text ++ rest) := by
  have hc : ',' ≠ bracket.closing := bracket.closing_spec.2.2.symm
  rw [skipAfterFor, skipSpace_of_head (by rfl)]
  simp only [if_neg hc, ne_eq, not_true, and_false, if_false, if_true, hkey.skip,
    skipValueFor_space hbefore]

end Entering

/-! ### Whole values -/

/-- Inside any brackets, the skipper gets from before the text to behind it. -/
def Passed (text : List Char) : Prop :=
  ∃ steps ≤ 2 * text.length, ∀ fuel brackets rest, Delimited rest →
    skipValueFor (fuel + steps) brackets (text ++ rest) = skipAfterFor fuel true brackets rest

/-- The skipper gets from the first of the items, or from the comma before it, to behind the
bracket. -/
def PassedIn (bracket : Bracket) (items : List Char) : Prop :=
  ∃ steps ≤ 2 * items.length + 2, ∀ fuel brackets rest,
    skipAfterFor (fuel + steps) false (bracket :: brackets) (items ++ bracket.closing :: rest) =
        skipAfterFor fuel true brackets rest ∧
      skipAfterFor (fuel + steps) true (bracket :: brackets)
          (',' :: (items ++ bracket.closing :: rest)) =
        skipAfterFor fuel true brackets rest

section Passing

variable {bracket : Bracket} {key before after space items : List Char}

/-- A value without parts takes one step. -/
theorem Scalar.passed (h : Scalar text) (htext : Begins text) : Passed text := by
  obtain ⟨c, more, rfl, -⟩ := htext
  refine ⟨1, by rw [List.length_cons]; omega, fun fuel brackets rest hrest => ?_⟩
  rw [skipValueFor, h rest hrest]

/-- A bracket with nothing in it takes a step for each of its ends. -/
theorem passed_empty (bracket : Bracket) (h : Space space) :
    Passed (bracket.opening :: (space ++ [bracket.closing])) := by
  refine ⟨2, by simp only [List.length_cons, List.length_append]; omega,
    fun fuel brackets rest _ => ?_⟩
  rw [List.cons_append, List.append_assoc, List.singleton_append, skipValueFor,
    skipHead_opening]
  exact (skipAfterFor_space h _ _ _ _ _).trans (skipAfterFor_closing _ _ _ _ _)

/-- A bracket with something in it takes one step more than that. -/
theorem PassedIn.filled (h : PassedIn bracket items) :
    Passed (bracket.opening :: (items ++ [bracket.closing])) := by
  obtain ⟨steps, hsteps, hpass⟩ := h
  refine ⟨steps + 1, ?_, fun fuel brackets rest _ => ?_⟩
  · simp only [List.length_cons, List.length_append, List.length_nil]
    omega
  · rw [List.cons_append, List.append_assoc, List.singleton_append, ← Nat.add_assoc,
      skipValueFor, skipHead_opening]
    exact (hpass fuel brackets rest).1

/-- The last value is followed by the end of the bracket. -/
theorem Passed.last (h : Passed text) (htext : Begins text) (hkey : Key bracket key)
    (hbefore : Space before) (hafter : Space after) :
    PassedIn bracket (key ++ (before ++ (text ++ after))) := by
  obtain ⟨steps, hsteps, hpass⟩ := h
  refine ⟨1 + steps + 1, ?_, fun fuel brackets rest => ?_⟩
  · simp only [List.length_append]
    omega
  · have hclose : skipValueFor (fuel + (1 + steps)) (bracket :: brackets)
        (text ++ (after ++ bracket.closing :: rest)) = skipAfterFor fuel true brackets rest := by
      rw [← Nat.add_assoc,
        hpass _ _ _ (delimited_space hafter bracket.closing_spec.2.1 rest),
        skipAfterFor_space hafter, skipAfterFor_closing]
    simp only [List.append_assoc]
    exact ⟨(enter_first hkey hbefore htext _ _ _).trans hclose,
      (enter_later hkey hbefore _ _ _).trans hclose⟩

/-- Another value is followed by the comma before the others. -/
theorem Passed.more (h : Passed text) (htext : Begins text) (hkey : Key bracket key)
    (hbefore : Space before) (hafter : Space after) (hitems : PassedIn bracket items) :
    PassedIn bracket (key ++ (before ++ (text ++ (after ++ ',' :: items)))) := by
  obtain ⟨steps, hsteps, hpass⟩ := h
  obtain ⟨later, hlater, hothers⟩ := hitems
  refine ⟨later + steps + 1, ?_, fun fuel brackets rest => ?_⟩
  · simp only [List.length_append, List.length_cons]
    omega
  · have hclose : skipValueFor (fuel + (later + steps)) (bracket :: brackets)
        (text ++ (after ++ ',' :: (items ++ bracket.closing :: rest))) =
          skipAfterFor fuel true brackets rest := by
      rw [← Nat.add_assoc, hpass _ _ _ (delimited_space hafter (.inl rfl) _),
        skipAfterFor_space hafter, (hothers fuel brackets rest).2]
    simp only [List.append_assoc, List.cons_append]
    exact ⟨(enter_first hkey hbefore htext _ _ _).trans hclose,
      (enter_later hkey hbefore _ _ _).trans hclose⟩

end Passing

mutual

/-- Every value is passed over. -/
theorem Value.passed {text : List Char} : Value text → Passed text
  | .null => scalar_words.1.passed Value.null.begins
  | .yes => scalar_words.2.1.passed Value.yes.begins
  | .no => scalar_words.2.2.passed Value.no.begins
  | .positive h => h.scalar.passed (Value.positive h).begins
  | .negative h => h.negative_scalar.passed (Value.negative h).begins
  | .string h => h.scalar.passed (Value.string h).begins
  | .empty bracket h => passed_empty bracket h
  | .filled h => h.passed.filled

/-- And so is all that stands in a bracket. -/
theorem Items.passed {bracket : Bracket} {items : List Char} :
    Items bracket items → PassedIn bracket items
  | .last hkey hbefore h hafter => h.passed.last h.begins hkey hbefore hafter
  | .more hkey hbefore h hafter later =>
    h.passed.more h.begins hkey hbefore hafter later.passed

end

/-- A value is passed over, along with the white space before it. -/
theorem skipValue_append {before : List Char} (hbefore : Space before) (h : Value text)
    (hrest : Delimited rest) : skipValue (before ++ (text ++ rest)) = .ok rest := by
  obtain ⟨steps, hsteps, hpass⟩ := h.passed
  obtain ⟨spare, hfuel⟩ : ∃ spare,
      2 * (before ++ (text ++ rest)).length + 2 = spare + 1 + steps := by
    simp only [List.length_append]
    exact ⟨2 * (before.length + (text.length + rest.length)) + 1 - steps, by omega⟩
  rw [skipValue, hfuel, skipValueFor_space hbefore, hpass _ _ _ hrest, skipAfterFor]

end ContentCoding.Json
