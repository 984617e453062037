import ContentCoding.Json.Record
import Mathlib.Data.List.TakeWhile

/-!
# The grammar of JSON

The rules of the standard, as relations on texts that know nothing of readers. A string is given by
what stands behind its opening quote. Where its content matters it spells characters, so that
surrogates have to come in pairs; as a value it may be any string, and every escape of a code unit
will do.

What is in brackets is told apart by the bracket: between elements stand commas, and before each of
them its key if the bracket has keys.

A value ends where a comma, a closing bracket or white space follows, or the text does. Numbers need
this, since a longer number may begin with a shorter one.
-/

namespace ContentCoding.Json

/-- Nothing but white space. -/
def Space (text : List Char) : Prop := ∀ c ∈ text, isSpace c = true

instance (text : List Char) : Decidable (Space text) := List.decidableBAll _ text

/-- What may follow a value. -/
def Delimited (rest : List Char) : Prop :=
  ∀ c ∈ rest.head?, isSpace c = true ∨ c = ',' ∨ c = ']' ∨ c = '\x7d'

/-! ### Numbers -/

/-- Decimal digits, one at least. -/
def Digits (text : List Char) : Prop := text ≠ [] ∧ ∀ c ∈ text, isDigit c = true

instance (text : List Char) : Decidable (Digits text) :=
  @instDecidableAnd _ _ inferInstance (List.decidableBAll _ text)

/-- A natural number: digits, the first of which is a zero only if it is alone. -/
structure Whole (text : List Char) : Prop where
  /-- There are only digits. -/
  digits : Digits text
  /-- A leading zero is alone. -/
  trimmed : text.head? = some '0' → text = ['0']

/-- What may stand behind the integer part of a number: a point and digits, or nothing. -/
inductive Fraction : List Char → Prop
  /-- Nothing. -/
  | none : Fraction []
  /-- A point and digits. -/
  | point {digits : List Char} (h : Digits digits) : Fraction ('.' :: digits)

/-- What may stand at the end of a number: an exponent, or nothing. -/
inductive Exponent : List Char → Prop
  /-- Nothing. -/
  | none : Exponent []
  /-- A letter, a sign or none, and digits. -/
  | scale {letter : Char} {sign digits : List Char} (hletter : letter = 'e' ∨ letter = 'E')
      (hsign : sign = [] ∨ sign = ['+'] ∨ sign = ['-']) (h : Digits digits) :
      Exponent (letter :: (sign ++ digits))

/-- A number without its sign. -/
inductive Magnitude : List Char → Prop
  /-- An integer part, and what may stand behind it. -/
  | parts {whole fraction exponent : List Char} (hwhole : Whole whole) (hfraction : Fraction fraction)
      (hexponent : Exponent exponent) : Magnitude (whole ++ (fraction ++ exponent))

/-- An integer as it is written without fraction and exponent. A negative one is not zero. -/
inductive Numeral : List Char → Int → Prop
  /-- A natural number. -/
  | natural {digits : List Char} (h : Whole digits) : Numeral digits (Nat.ofDigitChars 10 digits 0)
  /-- A negative integer. -/
  | negative {digits : List Char} (h : Whole digits) (nonzero : Nat.ofDigitChars 10 digits 0 ≠ 0) :
      Numeral ('-' :: digits) (-(Nat.ofDigitChars 10 digits 0 : Int))

/-! ### Strings -/

/-- Four hexadecimal digits, and the number that they stand for. -/
inductive HexUnit : List Char → Nat → Prop
  /-- The digits from left to right. -/
  | digits {a b c d : Char} {first second third fourth : Nat} (ha : hexValue? a = some first)
      (hb : hexValue? b = some second) (hc : hexValue? c = some third)
      (hd : hexValue? d = some fourth) :
      HexUnit [a, b, c, d] (((first * 16 + second) * 16 + third) * 16 + fourth)

/-- What a character must be to stand for itself in a string. -/
def Plain (c : Char) : Prop := 0x20 ≤ c.toNat ∧ c ≠ '"' ∧ c ≠ '\\'

instance (c : Char) : Decidable (Plain c) := inferInstanceAs (Decidable (_ ∧ _ ∧ _))

/-- The rest of a string behind its opening quote, whatever it stands for. -/
inductive Quoted : List Char → Prop
  /-- The closing quote. -/
  | close : Quoted ['"']
  /-- A character that stands for itself. -/
  | plain {c : Char} {text : List Char} (h : Plain c) (later : Quoted text) : Quoted (c :: text)
  /-- An escape that stands for a character. -/
  | escape {c d : Char} {text : List Char} (h : simpleEscape? c = some d) (later : Quoted text) :
      Quoted ('\\' :: c :: text)
  /-- An escape that stands for a code unit. -/
  | unit {digits text : List Char} {unit : Nat} (h : HexUnit digits unit) (later : Quoted text) :
      Quoted ('\\' :: 'u' :: (digits ++ text))

/-- The rest of a string behind its opening quote, and the characters that it stands for. -/
inductive Spells : List Char → List Char → Prop
  /-- The closing quote. -/
  | close : Spells ['"'] []
  /-- A character that stands for itself. -/
  | plain {c : Char} {text chars : List Char} (h : Plain c) (later : Spells text chars) :
      Spells (c :: text) (c :: chars)
  /-- An escape that stands for a character. -/
  | escape {c d : Char} {text chars : List Char} (h : simpleEscape? c = some d)
      (later : Spells text chars) : Spells ('\\' :: c :: text) (d :: chars)
  /-- An escape that stands for a code unit of its own. -/
  | unit {digits text chars : List Char} {unit : Nat} (h : HexUnit digits unit)
      (alone : unit < 0xD800 ∨ 0xDFFF < unit) (later : Spells text chars) :
      Spells ('\\' :: 'u' :: (digits ++ text)) (Char.ofNat unit :: chars)
  /-- Two escapes that stand for a pair of surrogates. -/
  | pair {leading trailing text chars : List Char} {high low : Nat} (hhigh : HexUnit leading high)
      (hlow : HexUnit trailing low) (first : 0xD800 ≤ high ∧ high ≤ 0xDBFF)
      (second : 0xDC00 ≤ low ∧ low ≤ 0xDFFF) (later : Spells text chars) :
      Spells ('\\' :: 'u' :: (leading ++ '\\' :: 'u' :: (trailing ++ text)))
        (Char.ofNat (0x10000 + (high - 0xD800) * 0x400 + (low - 0xDC00)) :: chars)

/-! ### Values -/

/-- The character that begins a bracket. -/
def Bracket.opening : Bracket → Char
  | .list => '['
  | .object => '\x7b'

/-- What stands before a value in a bracket, up to where white space may follow. -/
inductive Key : Bracket → List Char → Prop
  /-- Elements of lists have no keys. -/
  | list : Key .list []
  /-- Values of objects have a string and a colon. -/
  | object {before key between : List Char} (hbefore : Space before) (hkey : Quoted key)
      (hbetween : Space between) : Key .object (before ++ '"' :: (key ++ (between ++ [':'])))

mutual

/-- A value without white space around it. -/
inductive Value : List Char → Prop
  /-- The null. -/
  | null : Value ['n', 'u', 'l', 'l']
  /-- Truth. -/
  | yes : Value ['t', 'r', 'u', 'e']
  /-- Falsehood. -/
  | no : Value ['f', 'a', 'l', 's', 'e']
  /-- A number that is not negative. -/
  | positive {text : List Char} (h : Magnitude text) : Value text
  /-- A number with a sign. -/
  | negative {text : List Char} (h : Magnitude text) : Value ('-' :: text)
  /-- A string. -/
  | string {text : List Char} (h : Quoted text) : Value ('"' :: text)
  /-- A bracket with nothing in it. -/
  | empty (bracket : Bracket) {space : List Char} (h : Space space) :
      Value (bracket.opening :: (space ++ [bracket.closing]))
  /-- A bracket with something in it. -/
  | filled {bracket : Bracket} {items : List Char} (h : Items bracket items) :
      Value (bracket.opening :: (items ++ [bracket.closing]))

/-- What stands between brackets, if there is something. -/
inductive Items : Bracket → List Char → Prop
  /-- A last value. -/
  | last {bracket : Bracket} {key before text after : List Char} (hkey : Key bracket key)
      (hbefore : Space before) (h : Value text) (hafter : Space after) :
      Items bracket (key ++ (before ++ (text ++ after)))
  /-- A value and others behind a comma. -/
  | more {bracket : Bracket} {key before text after items : List Char} (hkey : Key bracket key)
      (hbefore : Space before) (h : Value text) (hafter : Space after)
      (later : Items bracket items) :
      Items bracket (key ++ (before ++ (text ++ (after ++ ',' :: items))))

end

/-! ### What texts begin with -/

variable {text rest space : List Char} {c : Char}

/-- White space is passed over, and what does not begin with more of it is left. -/
theorem skipSpace_append (h : Space space) (hrest : ∀ c ∈ rest.head?, isSpace c = false) :
    skipSpace (space ++ rest) = rest := by
  rw [skipSpace, List.dropWhile_append_of_pos h]
  cases rest with
  | nil => rfl
  | cons c rest => exact List.dropWhile_cons_of_neg (by simp [hrest c rfl])

/-- White space is passed over up to a character that is none. -/
theorem skipSpace_cons (h : Space space) (hc : isSpace c = false) (rest : List Char) :
    skipSpace (space ++ c :: rest) = c :: rest :=
  skipSpace_append h fun d hd => by
    obtain rfl : c = d := by simpa using hd
    exact hc

/-- A text that begins with no white space is left. -/
theorem skipSpace_of_head (hc : isSpace c = false) (rest : List Char) :
    skipSpace (c :: rest) = c :: rest := @skipSpace_cons [] c nofun hc rest

/-- White space on its own is passed over. -/
theorem skipSpace_of_space (h : Space space) : skipSpace space = [] := by
  have hall := @skipSpace_append [] space h nofun
  rwa [List.append_nil] at hall

/-- More white space is passed over along with what it stands before. -/
theorem skipSpace_skip (h : Space space) (rest : List Char) :
    skipSpace (space ++ rest) = skipSpace rest := by
  rw [skipSpace, skipSpace, List.dropWhile_append_of_pos h]

/-- A comma ends a value, also behind white space. -/
theorem delimited_space (h : Space space) (hc : c = ',' ∨ c = ']' ∨ c = '\x7d')
    (rest : List Char) : Delimited (space ++ c :: rest) := by
  intro d hd
  cases space with
  | nil =>
    obtain rfl : c = d := by simpa using hd
    exact .inr hc
  | cons first space =>
    obtain rfl : first = d := by simpa using hd
    exact .inl (h first List.mem_cons_self)

/-- The closing character of a bracket is no white space. -/
theorem Bracket.closing_spec (bracket : Bracket) :
    isSpace bracket.closing = false ∧
      (bracket.closing = ',' ∨ bracket.closing = ']' ∨ bracket.closing = '\x7d') ∧
      bracket.closing ≠ ',' := by
  cases bracket <;> decide

/-- A digit is one of the ten. -/
theorem isDigit_iff : isDigit c = true ↔ '0' ≤ c ∧ c ≤ '9' := by
  simp [isDigit]

/-- What follows a value is no digit and continues no number. -/
theorem Delimited.head (h : Delimited (c :: rest)) :
    isDigit c = false ∧ c ≠ '.' ∧ c ≠ 'e' ∧ c ≠ 'E' := by
  rcases h c rfl with hspace | rfl | rfl | rfl
  · simp only [isSpace, Bool.or_eq_true, beq_iff_eq] at hspace
    rcases hspace with ((rfl | rfl) | rfl) | rfl <;> decide
  all_goals decide

end ContentCoding.Json
