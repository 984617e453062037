import ContentCoding.Config.Json
import ContentCoding.Proofs.Json.Reading
import ContentCoding.Proofs.Parameters
import Mathlib.Data.List.Nodup

/-!
# Configurations in texts

The reader of configurations keeps a record that starts with the defaults, and puts the value of
every known key in its place. What an object of the grammar comes to is the list of the parameters
that it gives, in the order of its entries; unknown fields give nothing, whatever their value is.
If no parameter is given twice, the order does not matter: every parameter has the value it is given,
or its default.

The fields of a configuration hold more than their ranges. A text may give any value of the type of
a field, and validation is left for later.
-/

namespace ContentCoding

open Json

namespace Parameter

/-- The key of a parameter. -/
def key : Parameter → String
  | flateLevel => "flate_level"
  | brotliQuality => "brotli_quality"
  | brotliWindow => "brotli_lgwin"
  | zstdLevel => "zstd_level"
  | bufferSize => "buffer_size"

/-- The type of a parameter, as it is worded in errors. -/
def typeName : Parameter → String
  | zstdLevel => "i32"
  | bufferSize => "usize"
  | _ => "u32"

/-- The least value of the type of a parameter. -/
def lowest : Parameter → Int
  | zstdLevel => -2147483648
  | _ => 0

/-- The greatest value of the type of a parameter. -/
def highest : Parameter → Int
  | zstdLevel => 2147483647
  | bufferSize => 18446744073709551615
  | _ => 4294967295

/-- A value that a parameter can have. -/
def Holds (parameter : Parameter) (value : Int) : Prop :=
  parameter.lowest ≤ value ∧ value ≤ parameter.highest

instance (parameter : Parameter) (value : Int) : Decidable (parameter.Holds value) :=
  inferInstanceAs (Decidable (_ ∧ _))

/-- Give a value to a parameter. -/
def put (config : CodecConfig) (value : Int) : Parameter → CodecConfig
  | flateLevel => { config with flateLevel := UInt32.ofNat value.toNat }
  | brotliQuality => { config with brotliQuality := UInt32.ofNat value.toNat }
  | brotliWindow => { config with brotliWindow := UInt32.ofNat value.toNat }
  | zstdLevel => { config with zstdLevel := Int32.ofInt value }
  | bufferSize => { config with bufferSize := UInt64.ofNat value.toNat }

/-- The field of a parameter. -/
def field (parameter : Parameter) : RecordField CodecConfig where
  name := parameter.key
  read config text :=
    match readInteger parameter.lowest parameter.highest parameter.typeName text with
    | .error error => .error error
    | .ok (value, rest) => .ok (parameter.put config value, rest)

variable {config : CodecConfig} {parameter other : Parameter} {value : Int}

/-- A parameter has the value that it was given. -/
theorem value_put_self (h : parameter.Holds value) :
    parameter.value (parameter.put config value) = value := by
  obtain ⟨hleast, hgreatest⟩ := h
  cases parameter with
  | zstdLevel => exact Int32.toInt_ofInt_of_le hleast (Int.lt_add_one_of_le hgreatest)
  | bufferSize =>
    have hfits : value.toNat < 2 ^ 64 := by
      simp only [lowest, highest] at hleast hgreatest
      omega
    have hput : (UInt64.ofNat value.toNat).toNat = value.toNat := UInt64.toNat_ofNat_of_lt' hfits
    exact (congrArg Int.ofNat hput).trans (Int.toNat_of_nonneg hleast)
  | _ =>
    have hfits : value.toNat < 2 ^ 32 := by
      simp only [lowest, highest] at hleast hgreatest
      omega
    have hput : (UInt32.ofNat value.toNat).toNat = value.toNat := UInt32.toNat_ofNat_of_lt' hfits
    exact (congrArg Int.ofNat hput).trans (Int.toNat_of_nonneg hleast)

/-- The other parameters keep theirs. -/
theorem value_put_of_ne (h : other ≠ parameter) :
    other.value (parameter.put config value) = other.value config := by
  cases parameter <;> cases other <;> first | rfl | exact absurd rfl h

/-- The value of a parameter is one of its type. -/
theorem holds_value (config : CodecConfig) (parameter : Parameter) :
    parameter.Holds (parameter.value config) := by
  have hnatural : ∀ level : UInt32, (0 : Int) ≤ level.toNat ∧ (level.toNat : Int) ≤ 4294967295 :=
    fun level => ⟨Int.natCast_nonneg _, Int.ofNat_le.mpr (Nat.le_of_lt_succ level.toNat_lt)⟩
  cases parameter with
  | flateLevel => exact hnatural config.flateLevel
  | brotliQuality => exact hnatural config.brotliQuality
  | brotliWindow => exact hnatural config.brotliWindow
  | zstdLevel => exact ⟨config.zstdLevel.le_toInt, config.zstdLevel.toInt_le⟩
  | bufferSize =>
    exact ⟨Int.natCast_nonneg _, Int.ofNat_le.mpr (Nat.le_of_lt_succ config.bufferSize.toNat_lt)⟩

/-- A configuration is determined by the values of its parameters. -/
theorem config_ext {config other : CodecConfig}
    (h : ∀ parameter : Parameter, parameter.value config = parameter.value other) :
    config = other := by
  obtain ⟨flateLevel, brotliQuality, brotliWindow, zstdLevel, bufferSize⟩ := config
  obtain ⟨flateLevel', brotliQuality', brotliWindow', zstdLevel', bufferSize'⟩ := other
  have hflate : flateLevel = flateLevel' := UInt32.toNat_inj.mp (Int.ofNat.inj (h .flateLevel))
  have hquality : brotliQuality = brotliQuality' :=
    UInt32.toNat_inj.mp (Int.ofNat.inj (h .brotliQuality))
  have hwindow : brotliWindow = brotliWindow' :=
    UInt32.toNat_inj.mp (Int.ofNat.inj (h .brotliWindow))
  have hzstd : zstdLevel = zstdLevel' := Int32.toInt_inj.mp (h .zstdLevel)
  have hbuffer : bufferSize = bufferSize' := UInt64.toNat_inj.mp (Int.ofNat.inj (h .bufferSize))
  rw [hflate, hquality, hwindow, hzstd, hbuffer]

/-- Different parameters have different keys. -/
theorem key_injective : Function.Injective key := by
  intro parameter other h
  cases parameter <;> cases other <;> first | rfl | exact absurd h (by decide)

/-- All types are of at most 64 bits. -/
theorem bounds (parameter : Parameter) :
    -(twoTo 63 : Int) ≤ parameter.lowest ∧ parameter.highest < wordLimit := by
  cases parameter <;> decide

end Parameter

namespace CodecConfig

/-- The fields of a configuration are those of its parameters. -/
theorem fields_eq : fields = Parameter.all.map Parameter.field := rfl

/-- The key of a parameter leads to its field. -/
theorem find?_key (parameter : Parameter) :
    fields.find? (·.name == parameter.key) = some parameter.field := by
  cases parameter <;> rfl

/-- Another key leads nowhere. -/
theorem find?_other {key : String} (h : ∀ parameter : Parameter, key ≠ parameter.key) :
    fields.find? (·.name == key) = none := by
  rw [fields_eq, List.find?_eq_none]
  intro field hfield hname
  obtain ⟨parameter, -, rfl⟩ := List.mem_map.mp hfield
  exact h parameter (beq_iff_eq.mp hname).symm

end CodecConfig

/-! ### Texts of configurations -/

/-- An entry of an object, and the parameters that it gives: one, or none if its key is unknown. -/
inductive Entry : List Char → List (Parameter × Int) → Prop
  /-- A parameter and a value of its type. -/
  | given {parameter : Parameter} {key between before numeral : List Char} {value : Int}
      (hkey : Spells key parameter.key.toList) (hbetween : Space between) (hbefore : Space before)
      (hnumeral : Numeral numeral value) (holds : parameter.Holds value) :
      Entry ('"' :: (key ++ (between ++ ':' :: (before ++ numeral)))) [(parameter, value)]
  /-- Another key and any value. -/
  | unknown {key chars between before text : List Char} (hkey : Spells key chars)
      (hother : ∀ parameter : Parameter, chars ≠ parameter.key.toList) (hbetween : Space between)
      (hbefore : Space before) (hvalue : Value text) :
      Entry ('"' :: (key ++ (between ++ ':' :: (before ++ text)))) []

/-- Entries with commas between them, and the parameters that they give, in order. -/
inductive Members : List Char → List (Parameter × Int) → Prop
  /-- A last entry. -/
  | last {before entry after : List Char} {given : List (Parameter × Int)} (hbefore : Space before)
      (h : Entry entry given) (hafter : Space after) : Members (before ++ (entry ++ after)) given
  /-- An entry and others behind a comma. -/
  | more {before entry after members : List Char} {given others : List (Parameter × Int)}
      (hbefore : Space before) (h : Entry entry given) (hafter : Space after)
      (later : Members members others) :
      Members (before ++ (entry ++ (after ++ ',' :: members))) (given ++ others)

/-- A text that is one object, and the parameters that it gives, in order. -/
inductive Describes : List Char → List (Parameter × Int) → Prop
  /-- An object with nothing in it. -/
  | empty {before inside after : List Char} (hbefore : Space before) (hinside : Space inside)
      (hafter : Space after) : Describes (before ++ '\x7b' :: (inside ++ '\x7d' :: after)) []
  /-- An object with entries. -/
  | entries {before members after : List Char} {given : List (Parameter × Int)}
      (hbefore : Space before) (h : Members members given) (hafter : Space after) :
      Describes (before ++ '\x7b' :: (members ++ '\x7d' :: after)) given

/-- What a reader keeps once it has read a parameter. -/
def fill (filled : Filled CodecConfig) (gift : Parameter × Int) : Filled CodecConfig :=
  ⟨gift.1.put filled.record gift.2, gift.1.key :: filled.given⟩

/-- What it keeps once it has read parameters one after another. -/
def fillAll (filled : Filled CodecConfig) (given : List (Parameter × Int)) : Filled CodecConfig :=
  given.foldl fill filled

section Reading

variable {filled : Filled CodecConfig} {given : List (Parameter × Int)}
  {text rest before after members : List Char}

/-- The keys of some parameters come to lie on those that were there before. -/
theorem given_fillAll (filled : Filled CodecConfig) (given : List (Parameter × Int)) :
    (fillAll filled given).given = (given.map fun gift => gift.1.key).reverse ++ filled.given := by
  induction given generalizing filled with
  | nil => rfl
  | cons gift given ih =>
    have hkeys := ih (fill filled gift)
    rw [List.map_cons, List.reverse_cons, List.append_assoc]
    exact hkeys

/-- Keys that were there before are still there. -/
theorem suffix_fillAll (filled : Filled CodecConfig) (given : List (Parameter × Int)) :
    filled.given <:+ (fillAll filled given).given := by
  rw [given_fillAll]
  exact List.suffix_append _ _

/-- An entry is read behind the opening quote of its key. -/
theorem Entry.read (h : Entry text given) (hfresh : (fillAll filled given).given.Nodup)
    (hrest : Delimited rest) :
    ∃ body key behind, text ++ rest = '"' :: body ∧ readString body = .ok (key, behind) ∧
      readEntry CodecConfig.fields key filled behind = .ok (fillAll filled given, rest) := by
  cases h with
  | @given parameter key between before numeral value hkey hbetween hbefore hnumeral holds =>
    have hcolon : skipSpace (between ++ ':' :: (before ++ (numeral ++ rest))) =
        ':' :: (before ++ (numeral ++ rest)) := skipSpace_cons hbetween (by rfl) _
    obtain ⟨hlowest, hhighest⟩ := parameter.bounds
    have hread := hnumeral.read hbefore hrest hlowest hhighest holds parameter.typeName
    have hnew : parameter.key ∉ filled.given := (List.nodup_cons.mp hfresh).1
    have hgiven : filled.given.contains parameter.key = false := by simpa using hnew
    refine ⟨_, parameter.key, between ++ ':' :: (before ++ (numeral ++ rest)), rfl, ?_, ?_⟩
    · have hstring := hkey.read (between ++ ':' :: (before ++ (numeral ++ rest)))
      rw [String.ofList_toList] at hstring
      simpa using hstring
    · simp only [readEntry, CodecConfig.find?_key, hgiven, Bool.false_eq_true, if_false, hcolon,
        Parameter.field, hread]
      rfl
  | @unknown key chars between before text hkey hother hbetween hbefore hvalue =>
    have hcolon : skipSpace (between ++ ':' :: (before ++ (text ++ rest))) =
        ':' :: (before ++ (text ++ rest)) := skipSpace_cons hbetween (by rfl) _
    have hnone := @CodecConfig.find?_other (String.ofList chars) fun parameter hsame =>
      hother parameter (by rw [← hsame, String.toList_ofList])
    refine ⟨_, String.ofList chars, between ++ ':' :: (before ++ (text ++ rest)), rfl, ?_, ?_⟩
    · simpa using hkey.read (between ++ ':' :: (before ++ (text ++ rest)))
    · simp only [readEntry, hnone, hcolon, skipValue_append hbefore hvalue hrest]
      rfl

/-- An entry has some characters. -/
theorem Entry.length_pos (h : Entry text given) : 0 < text.length := by
  cases h <;> exact Nat.succ_pos _

/-- White space before an entry, before a comma and before the end is passed over. -/
theorem readEntriesFor_space (h : Space before) (fuel : Nat) (isFirst : Bool)
    (filled : Filled CodecConfig) (text : List Char) :
    readEntriesFor CodecConfig.fields fuel isFirst filled (before ++ text) =
      readEntriesFor CodecConfig.fields fuel isFirst filled text := by
  cases fuel with
  | zero => rfl
  | succ fuel => rw [readEntriesFor, readEntriesFor, skipSpace_skip h]

/-- The end of the object is the end of its entries. -/
theorem readEntriesFor_closing (h : Space before) (fuel : Nat) (isFirst : Bool)
    (filled : Filled CodecConfig) (rest : List Char) :
    readEntriesFor CodecConfig.fields (fuel + 1) isFirst filled (before ++ '\x7d' :: rest) =
      .ok (filled, rest) := by
  rw [readEntriesFor_space h, readEntriesFor, skipSpace_of_head (by rfl)]
  rfl

/-- An entry is read at the beginning of an object and behind a comma. -/
theorem readEntriesFor_entry (hbefore : Space before) (h : Entry text given)
    (hfresh : (fillAll filled given).given.Nodup) (hrest : Delimited rest) (fuel : Nat) :
    readEntriesFor CodecConfig.fields (fuel + 1) true filled (before ++ (text ++ rest)) =
        readEntriesFor CodecConfig.fields fuel false (fillAll filled given) rest ∧
      readEntriesFor CodecConfig.fields (fuel + 1) false filled
          (',' :: (before ++ (text ++ rest))) =
        readEntriesFor CodecConfig.fields fuel false (fillAll filled given) rest := by
  obtain ⟨body, key, behind, htext, hstring, hentry⟩ := h.read hfresh hrest
  have hquote : skipSpace ('"' :: body) = '"' :: body := skipSpace_of_head (by rfl) _
  have hcomma : skipSpace (',' :: (before ++ '"' :: body)) = ',' :: (before ++ '"' :: body) :=
    skipSpace_of_head (by rfl) _
  rw [htext]
  constructor
  · rw [readEntriesFor_space hbefore, readEntriesFor, hquote]
    simp only [if_true, hstring, hentry]
  · rw [readEntriesFor, hcomma]
    simp only [Bool.false_eq_true, if_false, skipSpace_skip hbefore, hquote, hstring, hentry]

/-- Entries are read up to the end of the object, from the first of them and from the comma before
it. -/
theorem Members.read (h : Members members given) (hfresh : (fillAll filled given).given.Nodup)
    (rest : List Char) {fuel : Nat} (hfuel : members.length + 1 ≤ fuel) :
    readEntriesFor CodecConfig.fields fuel true filled (members ++ '\x7d' :: rest) =
        .ok (fillAll filled given, rest) ∧
      readEntriesFor CodecConfig.fields fuel false filled (',' :: (members ++ '\x7d' :: rest)) =
        .ok (fillAll filled given, rest) := by
  induction h generalizing filled fuel with
  | @last before entry after given hbefore h hafter =>
    have hentry := h.length_pos
    -- One step reads the entry and another one the end, so an entry without characters would be
    -- short of fuel.
    simp only [List.length_append] at hfuel
    obtain ⟨fuel, rfl⟩ := Nat.exists_eq_add_of_le' (show 2 ≤ fuel by omega)
    have hend := readEntriesFor_closing hafter fuel false (fillAll filled given) rest
    obtain ⟨hfirst, hlater⟩ := readEntriesFor_entry hbefore h hfresh
      (delimited_space hafter (.inr (.inr rfl)) rest) (fuel + 1)
    simp only [List.append_assoc]
    exact ⟨hfirst.trans hend, hlater.trans hend⟩
  | @more before entry after members given others hbefore h hafter later ih =>
    have hall : fillAll filled (given ++ others) = fillAll (fillAll filled given) others :=
      List.foldl_append
    have hentry := h.length_pos
    simp only [List.length_append, List.length_cons] at hfuel
    obtain ⟨fuel, rfl⟩ := Nat.exists_eq_add_of_le' (show 1 ≤ fuel by omega)
    rw [hall] at hfresh ⊢
    -- The keys only grow, so this entry has a key of its own if all of them do.
    have hnow := hfresh.sublist (suffix_fillAll (fillAll filled given) others).sublist
    have hend := (readEntriesFor_space hafter fuel false _ _).trans
      (ih hfresh (show members.length + 1 ≤ fuel by omega)).2
    obtain ⟨hfirst, hlater⟩ := readEntriesFor_entry hbefore h hnow
      (delimited_space hafter (.inl rfl) (members ++ '\x7d' :: rest)) fuel
    simp only [List.append_assoc, List.cons_append]
    exact ⟨hfirst.trans hend, hlater.trans hend⟩

/-- An object is read as the record that its entries fill, if nothing else follows. -/
theorem ofJson_object {text : String} {body : List Char}
    (htext : text.toList = before ++ '\x7b' :: body) (hbefore : Space before) (hafter : Space after)
    (hread : readEntriesFor CodecConfig.fields (body.length + 1) true ⟨{}, []⟩ body =
      .ok (filled, after)) :
    CodecConfig.ofJson text = .ok filled.record := by
  have hopen : skipSpace text.toList = '\x7b' :: body := by
    rw [htext, skipSpace_cons hbefore (by rfl)]
  have hend : (skipSpace after).isEmpty = true := by rw [skipSpace_of_space hafter]; rfl
  simp only [CodecConfig.ofJson, readRecord, hopen, hread, hend, if_true]

/-- A text is read as the defaults with the parameters that it gives in their places. -/
theorem Describes.read {text : String} (h : Describes text.toList given)
    (hdistinct : (given.map Prod.fst).Nodup) :
    CodecConfig.ofJson text = .ok (fillAll ⟨{}, []⟩ given).record := by
  have hfresh : (fillAll ⟨{}, []⟩ given).given.Nodup := by
    have hkeys : (given.map fun gift => gift.1.key) = (given.map Prod.fst).map Parameter.key := by
      rw [List.map_map]
      rfl
    rw [given_fillAll, List.append_nil, List.nodup_reverse, hkeys]
    exact hdistinct.map Parameter.key_injective
  -- What is described are the characters, and they have to be a variable for a case on that.
  generalize htext : text.toList = chars at h
  cases h with
  | empty hbefore hinside hafter =>
    exact ofJson_object htext hbefore hafter (readEntriesFor_closing hinside _ _ _ _)
  | @entries before members after given hbefore h hafter =>
    refine ofJson_object htext hbefore hafter (h.read hfresh after ?_).1
    rw [List.length_append]
    omega

/-- What an entry gives has the type of its parameter. -/
theorem Entry.holds (h : Entry text given) : ∀ gift ∈ given, gift.1.Holds gift.2 := by
  intro gift hgift
  cases h with
  | given hkey hbetween hbefore hnumeral holds =>
    rw [List.mem_singleton.mp hgift]
    exact holds
  | unknown => cases hgift

/-- What entries give has the types of its parameters. -/
theorem Members.holds (h : Members members given) : ∀ gift ∈ given, gift.1.Holds gift.2 := by
  induction h with
  | last hbefore h hafter => exact h.holds
  | more hbefore h hafter later ih =>
    intro gift hgift
    rcases List.mem_append.mp hgift with hnow | hlater
    · exact h.holds gift hnow
    · exact ih gift hlater

/-- What a text gives has the types of its parameters. -/
theorem Describes.holds (h : Describes text given) : ∀ gift ∈ given, gift.1.Holds gift.2 := by
  cases h with
  | empty => exact nofun
  | entries hbefore h hafter => exact h.holds

/-- Parameters that are given once each have the values that they are given, and the others keep
theirs. -/
theorem value_fillAll (hholds : ∀ gift ∈ given, gift.1.Holds gift.2)
    (hdistinct : (given.map Prod.fst).Nodup) (parameter : Parameter) :
    parameter.value (fillAll filled given).record =
      (given.lookup parameter).getD (parameter.value filled.record) := by
  induction given generalizing filled with
  | nil => rfl
  | cons gift given ih =>
    obtain ⟨other, value⟩ := gift
    rw [List.map_cons, List.nodup_cons] at hdistinct
    have hrest := @ih (fill filled (other, value))
      (fun gift hgift => hholds gift (List.mem_cons_of_mem _ hgift)) hdistinct.2
    refine hrest.trans ?_
    by_cases hsame : parameter = other
    · subst hsame
      have hnone : given.lookup parameter = none := by
        refine List.lookup_eq_none_iff.mpr fun gift hgift => bne_iff_ne.mpr ?_
        rintro rfl
        exact hdistinct.1 (List.mem_map.mpr ⟨gift, hgift, rfl⟩)
      rw [hnone, List.lookup_cons_self]
      exact Parameter.value_put_self (hholds _ List.mem_cons_self)
    · have hkept : parameter.value (fill filled (other, value)).record =
          parameter.value filled.record := Parameter.value_put_of_ne hsame
      have hskip : ((other, value) :: given).lookup parameter = given.lookup parameter := by
        rw [List.lookup_cons, beq_false_of_ne hsame]
      rw [hkept, hskip]

/-- If a text gives no parameter twice, each has the value that it is given, or its default. -/
theorem Describes.read_values {text : String} (h : Describes text.toList given)
    (hdistinct : (given.map Prod.fst).Nodup) :
    ∃ config, CodecConfig.ofJson text = .ok config ∧ ∀ parameter : Parameter,
      parameter.value config =
        (given.lookup parameter).getD (parameter.value ({} : CodecConfig)) :=
  ⟨_, h.read hdistinct, value_fillAll h.holds hdistinct⟩

end Reading

/-! ### How configurations are written -/

/-- A parameter as it is written. -/
def written (config : CodecConfig) (parameter : Parameter) : List Char :=
  '"' :: (parameter.key.toList ++ '"' :: ':' :: (toString (parameter.value config)).toList)

/-- Parameters with commas between them. -/
def writtenAll (config : CodecConfig) (first : Parameter) : List Parameter → List Char
  | [] => written config first
  | second :: later => written config first ++ ',' :: writtenAll config second later

/-- Characters that stand for themselves spell themselves. -/
theorem spells_plain {chars : List Char} (h : chars.all (Plain ·) = true) :
    Spells (chars ++ ['"']) chars := by
  induction chars with
  | nil => exact .close
  | cons c chars ih =>
    rw [List.all_cons, Bool.and_eq_true, decide_eq_true_eq] at h
    exact .plain h.1 (ih h.2)

/-- The characters of a key stand for themselves. -/
theorem plain_key (parameter : Parameter) : parameter.key.toList.all (Plain ·) = true := by
  cases parameter <;> decide

/-- A parameter is written as an entry that gives its value. -/
theorem entry_written (config : CodecConfig) (parameter : Parameter) :
    Entry (written config parameter) [(parameter, parameter.value config)] := by
  have hentry := @Entry.given parameter _ [] [] _ _ (spells_plain (plain_key parameter)) nofun nofun
    (numeral_integer (parameter.value config)) (parameter.holds_value config)
  simpa [written] using hentry

/-- Parameters are written as entries that give their values. -/
theorem members_written (config : CodecConfig) (first : Parameter) (later : List Parameter) :
    Members (writtenAll config first later)
      ((first :: later).map fun parameter => (parameter, parameter.value config)) := by
  induction later generalizing first with
  | nil =>
    have hlast := @Members.last [] _ [] _ nofun (entry_written config first) nofun
    rwa [List.append_nil] at hlast
  | cons second later ih =>
    exact @Members.more [] _ [] _ _ _ nofun (entry_written config first) nofun (ih second)

/-- A configuration is written as an object of all parameters. -/
theorem toList_toJson (config : CodecConfig) :
    (CodecConfig.toJson config).toList = '\x7b' :: (writtenAll config .flateLevel
      [.brotliQuality, .brotliWindow, .zstdLevel, .bufferSize] ++ ['\x7d']) := by
  have hnatural : ∀ n : Nat, toString (n : Int) = toString n := fun _ => rfl
  unfold CodecConfig.toJson
  simp [writtenAll, written, Parameter.key, Parameter.value, hnatural]

/-- What is written gives every parameter its value. -/
theorem describes_toJson (config : CodecConfig) :
    Describes (CodecConfig.toJson config).toList
      (Parameter.all.map fun parameter => (parameter, parameter.value config)) := by
  rw [toList_toJson]
  exact @Describes.entries [] _ [] _ nofun (members_written config .flateLevel _) nofun

/-- **Reading gives back what was written, and the values that a text gives.** A configuration of any
values is read back from its text as it was. And so is any object of the grammar, with white space
anywhere between its tokens, that gives values of their types to some of the parameters, each once,
in any order and among any unknown fields: reading succeeds, and every parameter has the value that
the text gives to it, or else its default. -/
theorem configuration_texts_are_read :
    (∀ config : CodecConfig, CodecConfig.ofJson (CodecConfig.toJson config) = .ok config) ∧
      ∀ (text : String) (given : List (Parameter × Int)), Describes text.toList given →
        (given.map Prod.fst).Nodup →
          ∃ config, CodecConfig.ofJson text = .ok config ∧
            ∀ parameter : Parameter, parameter.value config =
              (given.lookup parameter).getD (parameter.value ({} : CodecConfig)) := by
  refine ⟨fun config => ?_, fun text given h hdistinct => h.read_values hdistinct⟩
  have hdistinct : Parameter.all.Nodup := by decide
  obtain ⟨other, hother, hvalues⟩ := (describes_toJson config).read_values hdistinct
  have hsame : other = config := Parameter.config_ext fun parameter => by
    rw [hvalues]
    cases parameter <;> rfl
  rw [hother, hsame]

/-- Two levels are read around an unknown field with brackets in its value. -/
theorem levels_around_an_unknown_field :
    Describes "\x7b\"zstd_level\": -7,\"x\":\x7b\"y\":[\"]\",1e5]\x7d,\"flate_level\":0 \x7d".toList
        [(.zstdLevel, -7), (.flateLevel, 0)] ∧
      CodecConfig.ofJson
          "\x7b\"zstd_level\": -7,\"x\":\x7b\"y\":[\"]\",1e5]\x7d,\"flate_level\":0 \x7d" =
        .ok { flateLevel := 0, zstdLevel := -7 } := by
  have hblank : Space [' '] := by decide
  have hzstd := @Entry.given .zstdLevel _ [] [' '] _ _ (spells_plain (plain_key _)) nofun hblank
    (numeral_integer (-7)) (by decide)
  have hflate := @Entry.given .flateLevel _ [] [] _ _ (spells_plain (plain_key _)) nofun nofun
    (numeral_integer 0) (by decide)
  have hpower : Value ['1', 'e', '5'] := .positive (@Magnitude.parts ['1'] [] ['e', '5']
    ⟨by decide, by decide⟩ .none
    (@Exponent.scale 'e' [] ['5'] (.inl rfl) (.inl rfl) (by decide)))
  have hbracket : Value ['"', ']', '"'] := .string (.plain (by decide) .close)
  have hlist : Value ['[', '"', ']', '"', ',', '1', 'e', '5', ']'] :=
    .filled (@Items.more .list [] [] _ [] _ .list nofun hbracket nofun
      (@Items.last .list [] [] _ [] .list nofun hpower nofun))
  have hkey : Key .object ['"', 'y', '"', ':'] :=
    @Key.object [] _ [] nofun (.plain (by decide) .close) nofun
  have hobject := Value.filled (@Items.last .object _ [] _ [] hkey nofun hlist nofun)
  have hunknown := @Entry.unknown _ ['x'] [] [] _ (spells_plain (by decide))
    (fun parameter => by cases parameter <;> decide) nofun nofun hobject
  have hdescribes := @Describes.entries [] _ [] _ nofun
    (@Members.more [] _ [] _ _ _ nofun hzstd nofun
      (@Members.more [] _ [] _ _ _ nofun hunknown nofun
        (@Members.last [] _ [' '] _ nofun hflate hblank))) nofun
  have hread : ∀ text : String, Describes text.toList [(.zstdLevel, -7), (.flateLevel, 0)] →
      CodecConfig.ofJson text = .ok { flateLevel := 0, zstdLevel := -7 } := by
    intro text h
    obtain ⟨config, hconfig, hvalues⟩ := configuration_texts_are_read.2 text _ h (by decide)
    have hsame : config = { flateLevel := 0, zstdLevel := -7 } :=
      Parameter.config_ext fun parameter => by
        rw [hvalues]
        cases parameter <;> rfl
    rw [hconfig, hsame]
  exact ⟨hdescribes, hread _ hdescribes⟩

end ContentCoding
