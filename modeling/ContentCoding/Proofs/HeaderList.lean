import ContentCoding.HeaderList
import ContentCoding.Proofs.Construction
import Mathlib.Data.List.TakeWhile

/-!
# What header values say

A header value is cut at its commas, and white space at the ends of the pieces does not count. So a
value says the same however its commas are surrounded by white space, and all that writing a list
loses are its blank entries. Only a list of nothing but one blank entry has no written form: the
empty value lists nothing at all.

The main statement puts these laws together. Since blank entries never become layers, its last part
is that pipelines in the order of a value and in the order of the value written anew are alike.
-/

namespace ContentCoding.HeaderList

open Text

/-- A text that does not begin or end with white space. -/
def Trimmed (text : List Char) : Prop :=
  (∀ c ∈ text.head?, isBlank c = false) ∧ ∀ c ∈ text.getLast?, isBlank c = false

/-- A text of nothing but white space. -/
def Blank (text : List Char) : Prop := ∀ c ∈ text, isBlank c = true

/-- A coding as it can be listed: no comma cuts it, and no white space is trimmed off. -/
def Listable (coding : String) : Prop := ',' ∉ coding.toList ∧ Trimmed coding.toList

instance (text : List Char) : Decidable (Trimmed text) :=
  @instDecidableAnd _ _ text.head?.decidableForallMem text.getLast?.decidableForallMem

instance (text : List Char) : Decidable (Blank text) := List.decidableBAll _ text

instance (coding : String) : Decidable (Listable coding) := inferInstanceAs (Decidable (_ ∧ _))

/-- Codings one after another, with a comma and any white space around it between two of them. -/
inductive Joined : List String → List Char → Prop
  /-- Nothing is listed. -/
  | none : Joined [] []
  /-- One coding stands alone. -/
  | one (coding : String) : Joined [coding] coding.toList
  /-- A coding stands before others. -/
  | more (coding : String) {before after text : List Char} {next : String} {rest : List String}
      (left : Blank before) (right : Blank after) (later : Joined (next :: rest) text) :
      Joined (coding :: next :: rest) (coding.toList ++ before ++ ',' :: (after ++ text))

/-! ### Trimming -/

/-- White space before a text is dropped. -/
theorem dropWhile_blank {lead : List Char} (h : Blank lead) (text : List Char) :
    (lead ++ text).dropWhile isBlank = text.dropWhile isBlank := by
  simp [List.dropWhile_append, List.dropWhile_eq_nil_iff.mpr h]

/-- From a text that does not begin with white space nothing is dropped. -/
theorem dropWhile_of_head {text : List Char} (h : ∀ c ∈ text.head?, isBlank c = false) :
    text.dropWhile isBlank = text := by
  cases text with
  | nil => rfl
  | cons c rest => exact List.dropWhile_cons_of_neg (by simp [h c rfl])

/-- White space around a trimmed text is trimmed off. -/
theorem trim_padded {lead text tail : List Char} (hlead : Blank lead) (htrimmed : Trimmed text)
    (htail : Blank tail) : trim (lead ++ text ++ tail) = text := by
  have htail' : Blank tail.reverse := fun c hc => htail c (List.mem_reverse.mp hc)
  cases hempty : text with
  | nil =>
    rw [trim, List.append_nil, dropWhile_blank hlead, List.dropWhile_eq_nil_iff.mpr htail]
    rfl
  | cons c rest =>
    have hfirst : (lead ++ text ++ tail).dropWhile isBlank = text ++ tail := by
      rw [List.append_assoc, dropWhile_blank hlead]
      refine dropWhile_of_head fun c hc => htrimmed.1 c ?_
      rwa [hempty] at hc ⊢
    have hlast : (text ++ tail).reverse.dropWhile isBlank = text.reverse := by
      rw [List.reverse_append, dropWhile_blank htail']
      refine dropWhile_of_head fun c hc => htrimmed.2 c ?_
      rwa [List.head?_reverse] at hc
    rw [← hempty, trim, hfirst, hlast, List.reverse_reverse]

/-- A trimmed text is left alone. -/
theorem trim_of_trimmed {text : List Char} (h : Trimmed text) : trim text = text := by
  have hpadded := @trim_padded [] text [] nofun h nofun
  rwa [List.nil_append, List.append_nil] at hpadded

/-- What does not satisfy a predicate ends a text from which all that does was dropped. -/
theorem head_dropWhile {text : List Char} :
    ∀ c ∈ (text.dropWhile isBlank).head?, isBlank c = false := by
  intro c hc
  have hnot := List.head?_dropWhile_not isBlank text
  rw [Option.mem_def] at hc
  rw [hc] at hnot
  simpa using hnot

/-- Trimming trims. -/
theorem trimmed_trim (text : List Char) : Trimmed (trim text) := by
  have hprefix : trim text <+: text.dropWhile isBlank := by
    rw [trim, ← List.reverse_suffix, List.reverse_reverse]
    exact List.dropWhile_suffix _
  constructor
  · intro c hc
    refine @head_dropWhile text c ?_
    obtain ⟨rest, hrest⟩ := hprefix
    rw [← hrest, Option.mem_def, List.head?_append, Option.mem_def.mp hc]
    rfl
  · rw [trim, List.getLast?_reverse]
    exact head_dropWhile

/-- Trimming adds nothing. -/
theorem mem_of_mem_trim {text : List Char} {c : Char} (h : c ∈ trim text) : c ∈ text := by
  rw [trim, List.mem_reverse] at h
  have hleft := (List.dropWhile_suffix isBlank).subset h
  exact (List.dropWhile_suffix isBlank).subset (List.mem_reverse.mp hleft)

/-- What is trimmed off is white space. -/
theorem exists_padding (text : List Char) :
    ∃ lead tail, Blank lead ∧ Blank tail ∧ text = lead ++ trim text ++ tail := by
  have htail : Blank ((text.dropWhile isBlank).reverse.takeWhile isBlank).reverse :=
    fun c hc => List.mem_takeWhile_imp (List.mem_reverse.mp hc)
  refine ⟨text.takeWhile isBlank, _, fun c hc => List.mem_takeWhile_imp hc, htail, ?_⟩
  rw [trim, List.append_assoc, ← List.reverse_append, List.takeWhile_append_dropWhile,
    List.reverse_reverse, List.takeWhile_append_dropWhile]

/-! ### Cutting at commas -/

/-- Segments are what lies between the commas. -/
theorem segments_eq_splitOn (text : List Char) : segments text = text.splitOn ',' := by
  induction text with
  | nil => rfl
  | cons c rest ih =>
    rw [segments, ih, List.splitOn_cons_eq_if_modifyHead]
    cases hrest : rest.splitOn ',' with
    | nil => exact absurd hrest (List.splitOn_ne_nil _ _)
    | cons first others => by_cases hcomma : c = ',' <;> simp [hcomma]

/-- A text without a comma is one segment. -/
theorem segments_of_free {text : List Char} (h : ',' ∉ text) : segments text = [text] := by
  rw [segments_eq_splitOn, List.splitOn_eq_singleton h]

/-- A comma ends the segment before it. -/
theorem segments_comma {text : List Char} (h : ',' ∉ text) (rest : List Char) :
    segments (text ++ ',' :: rest) = text :: segments rest := by
  rw [segments_eq_splitOn, segments_eq_splitOn, List.splitOn_append_cons_self_of_not_mem h]

/-- A text has no comma, or a first one. -/
theorem exists_comma (text : List Char) :
    ',' ∉ text ∨ ∃ first rest, ',' ∉ first ∧ text = first ++ ',' :: rest := by
  by_cases hcomma : ',' ∈ text
  · exact .inr (List.eq_append_cons_of_mem hcomma |>.imp fun first h =>
      h.imp fun rest h => ⟨h.2, h.1⟩)
  · exact .inl hcomma

/-- There is one segment more than there are commas. -/
theorem length_segments (text : List Char) : (segments text).length = text.count ',' + 1 := by
  rcases exists_comma text with hfree | ⟨first, rest, hfree, hsplit⟩
  · rw [segments_of_free hfree, List.count_eq_zero.mpr hfree]
    rfl
  · have hrest := length_segments rest
    rw [hsplit, segments_comma hfree, List.length_cons, hrest, List.count_append,
      List.count_cons_self, List.count_eq_zero.mpr hfree]
    omega
termination_by text.length
decreasing_by
  rw [hsplit, List.length_append, List.length_cons]
  omega

/-- No segment holds a comma. -/
theorem comma_not_mem_segment {text segment : List Char} (h : segment ∈ segments text) :
    ',' ∉ segment := by
  rcases exists_comma text with hfree | ⟨first, rest, hfree, hsplit⟩
  · rw [segments_of_free hfree] at h
    rwa [List.mem_singleton.mp h]
  · rw [hsplit, segments_comma hfree] at h
    rcases List.mem_cons.mp h with rfl | hlater
    · exact hfree
    · exact comma_not_mem_segment hlater
termination_by text.length
decreasing_by
  rw [hsplit, List.length_append, List.length_cons]
  omega

/-- White space has no commas. -/
theorem Blank.free {text : List Char} (h : Blank text) : ',' ∉ text :=
  fun hcomma => absurd (h ',' hcomma) (by decide)

/-! ### Reading what was joined -/

/-- The segments of joined codings are the codings, whatever white space comes before the first. -/
theorem Joined.trimmed_segments {codings : List String} {text : List Char} (h : Joined codings text)
    (hlistable : ∀ coding ∈ codings, Listable coding) (hsome : codings ≠ []) {lead : List Char}
    (hlead : Blank lead) :
    (segments (lead ++ text)).map trim = codings.map String.toList := by
  induction h generalizing lead with
  | none => exact absurd rfl hsome
  | one coding =>
    obtain ⟨hfree, htrimmed⟩ := hlistable coding List.mem_cons_self
    have hpadded := @trim_padded lead coding.toList [] hlead htrimmed nofun
    rw [List.append_nil] at hpadded
    rw [segments_of_free (by simp [hfree, hlead.free])]
    simp [hpadded]
  | @more coding before after text next rest left right later ih =>
    obtain ⟨hfree, htrimmed⟩ := hlistable coding List.mem_cons_self
    have hrest := ih (fun other hother => hlistable other (List.mem_cons_of_mem _ hother))
      (List.cons_ne_nil _ _) right
    have hsplit : lead ++ (coding.toList ++ before ++ ',' :: (after ++ text)) =
        (lead ++ coding.toList ++ before) ++ ',' :: (after ++ text) := by
      simp
    rw [hsplit, segments_comma (by simp [hlead.free, hfree, left.free]), List.map_cons, hrest,
      trim_padded hlead htrimmed left]
    rfl

/-- Joined codings are white space alone only if there is none, or a blank one alone. -/
theorem Joined.blank {codings : List String} {text : List Char} (h : Joined codings text)
    (hlistable : ∀ coding ∈ codings, Listable coding) (hblank : Blank text) :
    codings = [] ∨ codings = [""] := by
  cases h with
  | none => exact .inl rfl
  | one coding =>
    obtain ⟨-, hstart, -⟩ := hlistable coding List.mem_cons_self
    refine .inr (congrArg (fun coding => [coding]) (String.toList_eq_nil_iff.mp ?_))
    cases hcoding : coding.toList with
    | nil => rfl
    | cons c rest =>
      rw [hcoding] at hblank hstart
      have hneither := (hblank c List.mem_cons_self).symm.trans (hstart c rfl)
      cases hneither
  | more coding left right later => exact absurd (List.mem_append_right _ List.mem_cons_self) hblank.free

/-- Reading joined codings gives them back, unless there is nothing but a blank one. -/
theorem parse_joined {codings : List String} {text : List Char} (h : Joined codings text)
    (hlistable : ∀ coding ∈ codings, Listable coding) (hsome : codings ≠ [""]) :
    parse (String.ofList text) = codings := by
  rw [parse, String.toList_ofList]
  split
  · rename_i hall
    exact ((h.blank hlistable (List.all_eq_true.mp hall)).resolve_right hsome).symm
  · rename_i hsomething
    have hne : codings ≠ [] := by
      rintro rfl
      cases h
      exact hsomething rfl
    have hsegments := @Joined.trimmed_segments codings text h hlistable hne [] nofun
    rw [List.nil_append] at hsegments
    calc (segments text).map (fun segment => String.ofList (trim segment))
        = ((segments text).map trim).map String.ofList := by
          rw [List.map_map]
          rfl
      _ = (codings.map String.toList).map String.ofList := by rw [hsegments]
      _ = codings := by
          rw [List.map_map]
          simp [Function.comp_def]

/-! ### Writing and reading -/

/-- A coding without the white space around it. -/
def bare (coding : String) : String := String.ofList (trim coding.toList)

/-- A listable coding is bare. -/
theorem bare_of_listable {coding : String} (h : Listable coding) : bare coding = coding := by
  rw [bare, trim_of_trimmed h.2, String.ofList_toList]

/-- A coding without a comma is listable once it is bare. -/
theorem listable_bare {coding : String} (h : ',' ∉ coding.toList) : Listable (bare coding) := by
  rw [Listable, bare, String.toList_ofList]
  exact ⟨fun hcomma => h (mem_of_mem_trim hcomma), trimmed_trim _⟩

/-- Codings with a comma and a space between them are joined. -/
theorem joined_intercalate (codings : List String) :
    Joined codings (", ".intercalate codings).toList := by
  induction codings with
  | nil => exact .none
  | cons coding rest ih =>
    cases rest with
    | nil =>
      rw [String.intercalate_singleton]
      exact .one coding
    | cons next rest =>
      have hmore := @Joined.more coding [] [' '] _ next rest nofun (by decide) ih
      have htext : (", ".intercalate (coding :: next :: rest)).toList =
          coding.toList ++ [] ++ ',' :: ([' '] ++ (", ".intercalate (next :: rest)).toList) := by
        rw [String.intercalate_cons_cons]
        simp [String.toList_append]
      rwa [htext]

/-- Reading what was written gives the bare codings without the blank ones. -/
theorem parse_format {codings : List String} (h : ∀ coding ∈ codings, ',' ∉ coding.toList) :
    parse (format codings) = (codings.map bare).filter (· != "") := by
  have hlistable : ∀ coding ∈ (codings.map bare).filter (· != ""), Listable coding := by
    intro coding hcoding
    obtain ⟨original, hmem, rfl⟩ := List.mem_map.mp (List.mem_filter.mp hcoding).1
    exact listable_bare (h original hmem)
  have hsome : (codings.map bare).filter (· != "") ≠ [""] := by
    intro hsame
    have hblank := List.mem_filter.mp (hsame ▸ List.mem_singleton.mpr rfl :
      "" ∈ (codings.map bare).filter (· != ""))
    exact absurd hblank.2 (by decide)
  have hread := parse_joined (joined_intercalate _) hlistable hsome
  rwa [String.ofList_toList] at hread

/-- What is read is listable. -/
theorem listable_of_mem_parse {header coding : String} (h : coding ∈ parse header) :
    Listable coding := by
  rw [parse] at h
  split at h
  · cases h
  · obtain ⟨segment, hsegment, rfl⟩ := List.mem_map.mp h
    rw [Listable, String.toList_ofList]
    exact ⟨fun hcomma => comma_not_mem_segment hsegment (mem_of_mem_trim hcomma), trimmed_trim _⟩

/-- A value that is read and written anew lists the same codings, without the blank ones. -/
theorem parse_format_parse (header : String) :
    parse (format (parse header)) = (parse header).filter (· != "") := by
  have hbare : (parse header).map bare = parse header :=
    List.map_congr_left (fun coding h => bare_of_listable (listable_of_mem_parse h)) |>.trans
      (List.map_id _)
  rw [parse_format fun coding h => (listable_of_mem_parse h).1, hbare]

/-- Reading gives one coding more than there are commas, unless there is white space alone. -/
theorem length_parse {header : String} (h : ¬Blank header.toList) :
    (parse header).length = header.toList.count ',' + 1 := by
  have hsome : ¬header.toList.all isBlank = true := fun hall => h (List.all_eq_true.mp hall)
  rw [parse, if_neg hsome, List.length_map, length_segments]

/-- White space alone lists nothing. -/
theorem parse_blank {header : String} (h : Blank header.toList) : parse header = [] := by
  rw [parse, if_pos (List.all_eq_true.mpr h)]

/-- What is read are the pieces between the commas, trimmed. -/
theorem exists_pieces {header : String} (h : ¬Blank header.toList) :
    ∃ pieces : List (List Char), [','].intercalate pieces = header.toList ∧
      (∀ piece ∈ pieces, ',' ∉ piece) ∧
      parse header = pieces.map fun piece => bare (String.ofList piece) := by
  have hsome : ¬header.toList.all isBlank = true := fun hall => h (List.all_eq_true.mp hall)
  refine ⟨segments header.toList, ?_, fun piece hpiece => comma_not_mem_segment hpiece, ?_⟩
  · rw [segments_eq_splitOn, List.intercalate_splitOn]
  · simp only [parse, if_neg hsome, bare, String.toList_ofList]

/-- A value lists as many layers as it does when it is written anew. -/
theorem filter_parse_format_parse (header : String) :
    (parse (format (parse header))).filter (· != "") = (parse header).filter (· != "") := by
  rw [parse_format_parse, List.filter_filter]
  simp only [Bool.and_self]

end HeaderList

open HeaderList in
/-- Reading and writing header values, and the chains in their order, agree. A value of white space
alone lists nothing, and any other the pieces between its commas, trimmed. A list that is written
and read has its entries trimmed and loses the blank ones. Trimmed entries without commas that are
joined by commas, with any white space around each, are read as they were, blank ones included,
unless there is nothing but a blank one. Pipelines in the order of a value and in that of the value
read and written anew have the same layers or fail with the same error, and reply alike to all
calls. -/
theorem header_values_order_chains :
    (∀ coding : String, Trimmed (bare coding).toList ∧ ∃ lead tail, Blank lead ∧ Blank tail ∧
      coding.toList = lead ++ (bare coding).toList ++ tail) ∧
    (∀ header : String, Blank header.toList → parse header = []) ∧
    (∀ header : String, ¬Blank header.toList →
      (parse header).length = header.toList.count ',' + 1 ∧
      (∀ coding ∈ parse header, Listable coding) ∧
      ∃ pieces : List (List Char), [','].intercalate pieces = header.toList ∧
        (∀ piece ∈ pieces, ',' ∉ piece) ∧
        parse header = pieces.map fun piece => bare (String.ofList piece)) ∧
    (∀ codings : List String, (∀ coding ∈ codings, ',' ∉ coding.toList) →
      parse (format codings) = (codings.map bare).filter (· != "")) ∧
    (∀ (codings : List String) (text : List Char), Joined codings text →
      (∀ coding ∈ codings, Listable coding) → codings ≠ [""] →
      parse (String.ofList text) = codings) ∧
    (∀ {σ : Type} [Sink σ] (sink : σ) (registry : EncoderRegistry) (header : String),
      let new := Compressor.create sink registry (parse header)
      let again := Compressor.create sink registry (parse (format (parse header)))
      again.init.1 = new.init.1 ∧ again.init.2.layerNames = new.init.2.layerNames ∧
        ∀ calls, replies Compressor.call again calls = replies Compressor.call new calls) ∧
    (∀ {σ : Type} [Source σ] (source : σ) (registry : DecoderRegistry) (header : String),
      let new := Decompressor.create source registry (parse header)
      let again := Decompressor.create source registry (parse (format (parse header)))
      again.init.1 = new.init.1 ∧ again.init.2.layerNames = new.init.2.layerNames ∧
        ∀ calls, replies Decompressor.call again calls = replies Decompressor.call new calls) := by
  refine ⟨fun coding => ?_, fun header => parse_blank, fun header hsome => ?_,
    fun codings => parse_format, fun codings text hjoined hlistable hsome =>
      parse_joined hjoined hlistable hsome, ?_, ?_⟩
  · rw [bare, String.toList_ofList]
    exact ⟨trimmed_trim _, exists_padding _⟩
  · exact ⟨length_parse hsome, fun coding => listable_of_mem_parse, exists_pieces hsome⟩
  · intro σ _ sink registry header new again
    have hreplies : ∀ calls, replies Compressor.call again calls = replies Compressor.call new calls :=
      Compressor.replies_of_same_names sink registry (filter_parse_format_parse header)
    have hopening := hreplies [.init, .layerNames]
    simp only [replies, Compressor.call, List.cons.injEq, Reply.status.injEq, Reply.names.injEq,
      and_true] at hopening
    exact ⟨hopening.1, hopening.2, hreplies⟩
  · intro σ _ source registry header new again
    have hreplies : ∀ calls,
        replies Decompressor.call again calls = replies Decompressor.call new calls :=
      Decompressor.replies_of_same_names source registry (filter_parse_format_parse header)
    have hopening := hreplies [.init, .layerNames]
    simp only [replies, Decompressor.call, List.cons.injEq, Reply.status.injEq, Reply.names.injEq,
      and_true] at hopening
    exact ⟨hopening.1, hopening.2, hreplies⟩

open HeaderList in
/-- A list with a blank entry, joined with a comma that stands between a tab and a no-break space
and one that stands alone. It is read as it was, and loses the blank entry when it is written. A
chain whose last coding is not registered fails at the same index in both orders. -/
theorem header_values_order_chains_past_blank :
    let registry : EncoderRegistry :=
      .ofList [("mask", Scripted.noted "mask" (Scripted.masking 1) ())]
    let sink : Array UInt8 := #[]
    Joined ["mask", "", "absent"] "mask\t,\u00a0,absent".toList ∧
      (∀ coding ∈ ["mask", "", "absent"], Listable coding) ∧ ["mask", "", "absent"] ≠ [""] ∧
      parse (String.ofList "mask\t,\u00a0,absent".toList) = ["mask", "", "absent"] ∧
      (∀ coding ∈ ["mask", "", "absent"], ',' ∉ coding.toList) ∧
      parse (format ["mask", "", "absent"]) = ["mask", "absent"] ∧
      (Compressor.create sink registry ["mask", "", "absent"]).init.1 =
        .failed (.unsupported 1 "absent") ∧
      (Compressor.create sink registry (parse (format (parse "mask\t,\u00a0,absent")))).init.1 =
        (Compressor.create sink registry (parse "mask\t,\u00a0,absent")).init.1 := by
  intro registry sink
  have hlast : Joined ["", "absent"] ",absent".toList :=
    @Joined.more "" [] [] "absent".toList "absent" [] (by decide) (by decide) (.one "absent")
  have hjoined : Joined ["mask", "", "absent"] "mask\t,\u00a0,absent".toList :=
    @Joined.more "mask" ['\t'] ['\u00a0'] ",absent".toList "" ["absent"] (by decide) (by decide)
      hlast
  have hlistable : ∀ coding ∈ ["mask", "", "absent"], Listable coding := by decide
  have hfree : ∀ coding ∈ ["mask", "", "absent"], ',' ∉ coding.toList := by decide
  have hsome : ["mask", "", "absent"] ≠ [""] := by decide
  obtain ⟨-, -, -, hformat, hjoins, hcompressors, -⟩ := header_values_order_chains
  have hread := hjoins _ _ hjoined hlistable hsome
  have hwritten := hformat ["mask", "", "absent"] hfree
  have hbare : (["mask", "", "absent"].map bare).filter (· != "") = ["mask", "absent"] := by decide
  have hfails : (Compressor.create sink registry ["mask", "", "absent"]).init.1 =
      .failed (.unsupported 1 "absent") := by decide
  exact ⟨hjoined, hlistable, hsome, hread, hfree, hwritten.trans hbare, hfails,
    (hcompressors sink registry _).1⟩

end ContentCoding
