import ContentCoding.Builtin.Registry
import ContentCoding.Proofs.Lzw.Layer
import ContentCoding.Proofs.Rendering

/-!
# Stacking is composition

One-shot encoding with the names of two orders, one behind the other, is encoding twice: what the
layers of the inner order put out is what those of the outer order are written.

What a layer puts out has to depend on the bytes that it takes alone. There are two ways to make
sure of that. A layer rewrites data if the calls that it makes below it are fixed by the script that
it is called for, whatever the writer below takes at a time, and their content by the content of
that script. A layer renders data if the bytes are fixed by the bytes, whatever calls are made for
them on either side. It may then refuse data, if every layer above it forwards the fault.

Layers that do nothing and LZW layers do both. Masking and tagging layers render data, layers do so
that keep pending what the writer below does not take, and layers that refuse some bytes.
-/

namespace ContentCoding

/-! ### Layers that rewrite data -/

/-- The factory makes a layer without a call to the layer below: what a factory writes is lost at
the bottom of a chain, but not inside it. The layer takes every script, and the content of what it
performs below is a function of the content of the script. -/
def EncoderFactory.Rewrites (factory : EncoderFactory) (emit : Bytes → Bytes) : Prop :=
  ∃ (encoder : Encoder) (first : encoder.State),
    factory.Performs (fun made rest => made = .built encoder first ∧ rest = []) [] ∧
    ∀ script, Feed.Proper script → ∃ sent, Feed.Proper sent ∧
      encoder.Transcribes first script sent ∧ Feed.content sent = emit (Feed.content script)

/-- Layers that do nothing leave data as they are. -/
theorem Coding.identity_rewrites : EncoderFactory.Rewrites (.always identityEncoder ()) id :=
  ⟨identityEncoder, (), ⟨rfl, rfl⟩, fun script hscript =>
    ⟨script, hscript, identityEncoder_transcribes script, rfl⟩⟩

/-- LZW layers encode data. -/
theorem Lzw.encoder_rewrites (patience : Nat) {scratch : Nat} (hscratch : 1 ≤ scratch) :
    EncoderFactory.Rewrites (.always (Lzw.encoder patience scratch) {}) Packing.encoded := by
  refine ⟨Lzw.encoder patience scratch, {}, ⟨rfl, rfl⟩, fun script _ => ?_⟩
  obtain ⟨pieces, hproper, hwrites, -, hencoded⟩ :=
    encoder_encodes patience hscratch script Packing.new_carries
  exact ⟨pieces, hproper, hwrites.transcribes, hencoded⟩

/-! ### Layers that render data -/

/-- The factory makes a layer without a call to the layer below. The layer renders data, and either
refuses none or forwards faults. -/
def EncoderFactory.Renders (factory : EncoderFactory) (refusing : Bool) (rendering : Rendering) :
    Prop :=
  ∃ (encoder : Encoder) (first : encoder.State),
    factory.Performs (fun made rest => made = .built encoder first ∧ rest = []) [] ∧
    encoder.Renders rendering first [] [] ∧
    (if refusing then encoder.Forwards else rendering.Total)

/-- A layer that refuses nothing and forwards faults is of both kinds. -/
theorem Encoder.Forwards.either {encoder : Encoder} (h : encoder.Forwards) {rendering : Rendering}
    (ht : rendering.Total) (refusing : Bool) :
    if refusing then encoder.Forwards else rendering.Total := by
  cases refusing
  · exact ht
  · exact h

/-- An exchange that ends with a result has sent the content of its script. -/
theorem Push.Ends.sends {α : Type} {push : Push α} {result : α} {script : List Feed}
    (h : push.Ends result script) (sent : Bytes) :
    push.Sends (fun answer total => answer = result ∧ total = sent ++ Feed.content script)
      sent := by
  have hall := h []
  rw [List.append_nil] at hall
  refine (hall.sends sent).mono ?_
  rintro answer total ⟨rest, ⟨rfl, rfl⟩, htotal⟩
  rw [Feed.content, List.append_nil] at htotal
  exact ⟨rfl, htotal.symm⟩

/-- It ends with one result only, and with one content. -/
theorem Push.Ends.unique {α : Type} {push : Push α} {result other : α} {script more : List Feed}
    (h : push.Ends result script) (ho : push.Ends other more) :
    result = other ∧ Feed.content script = Feed.content more := by
  obtain ⟨answer, total, ⟨⟨rfl, rfl⟩, rfl, htotal⟩, -⟩ :=
    ((h.sends []).and (ho.sends [])).exists_end
  exact ⟨rfl, htotal⟩

/-- A layer that takes all of every piece at once, and puts out what is a function of the content,
renders data. -/
theorem Encoder.renders_of_writes {encoder : Encoder} {first : encoder.State} {emit : Bytes → Bytes}
    (h : ∀ script, ∃ sent, encoder.Writes first script sent ∧
      Feed.content sent = emit (Feed.content script)) :
    encoder.Renders (fun data => some (emit data)) first [] [] := by
  refine ⟨fun state taken sent => ∀ script, ∃ left, encoder.Writes state script left ∧
    sent ++ Feed.content left = emit (taken ++ Feed.content script), ⟨?_, ?_, ?_⟩, h⟩
  · intro state taken sent data hd hall
    obtain ⟨_, ⟨after, pieces, _, rfl, hends, -⟩, -⟩ := hall [.piece data]
    refine (hends.sends sent).mono ?_
    rintro _ _ ⟨rfl, rfl⟩
    refine ⟨List.length_pos_iff.mpr hd, Nat.le_refl _, fun script => ?_⟩
    obtain ⟨_, ⟨other, more, left, rfl, hagain, hleft⟩, hcontent⟩ := hall (.piece data :: script)
    obtain ⟨hsame, hpieces⟩ := hends.unique hagain
    obtain rfl : after = other := congrArg Prod.snd hsame
    rw [Feed.content_append, ← hpieces, Feed.content] at hcontent
    refine ⟨left, hleft, ?_⟩
    rw [List.take_length, List.append_assoc, hcontent, List.append_assoc]
  · intro state taken sent hall
    obtain ⟨_, ⟨after, pieces, _, rfl, hends, -⟩, -⟩ := hall [.flush]
    refine (hends.sends sent).mono ?_
    rintro _ _ ⟨rfl, rfl⟩ script
    obtain ⟨_, ⟨other, more, left, rfl, hagain, hleft⟩, hcontent⟩ := hall (.flush :: script)
    obtain ⟨hsame, hpieces⟩ := hends.unique hagain
    obtain rfl : after = other := congrArg Prod.snd hsame
    rw [Feed.content_append, ← hpieces, Feed.content] at hcontent
    exact ⟨left, hleft, (List.append_assoc ..).trans hcontent⟩
  · intro state taken sent hall
    obtain ⟨left, ⟨after, hends, hexposes⟩, hcontent⟩ := hall []
    rw [Feed.content, List.append_nil] at hcontent
    refine (hends.sends sent).mono ?_
    rintro _ _ ⟨rfl, rfl⟩
    exact ⟨hexposes, congrArg some hcontent.symm⟩

/-- Layers that do nothing render data as they are. -/
theorem Coding.identity_renders (refusing : Bool) :
    EncoderFactory.Renders (.always identityEncoder ()) refusing some := by
  refine ⟨identityEncoder, (), ⟨rfl, rfl⟩, ⟨fun _ taken sent => sent = taken, ⟨?_, ?_, ?_⟩, rfl⟩,
    identityEncoder_forwards.either (fun _ => Option.some_ne_none _) refusing⟩
  · rintro state taken _ data hd rfl
    exact ⟨hd, fun count h1 hle => ⟨h1, hle, rfl⟩⟩
  · rintro state taken _ rfl
    exact rfl
  · rintro state taken _ rfl
    exact ⟨rfl, rfl⟩

/-- LZW layers render data as their code. -/
theorem Lzw.encoder_renders (patience : Nat) {scratch : Nat} (hscratch : 1 ≤ scratch)
    (refusing : Bool) :
    EncoderFactory.Renders (.always (Lzw.encoder patience scratch) {}) refusing
      fun data => some (Packing.encoded data) := by
  refine ⟨encoder patience scratch, {}, ⟨rfl, rfl⟩, Encoder.renders_of_writes fun script => ?_,
    (encoder_forwards patience scratch).either (fun _ => Option.some_ne_none _) refusing⟩
  obtain ⟨pieces, -, hwrites, -, hencoded⟩ :=
    encoder_encodes patience hscratch script Packing.new_carries
  exact ⟨pieces, hwrites, hencoded⟩

namespace Scripted

end Scripted

/-! ### Layers that go together -/

/-- How a chain of layers comes to compose. -/
inductive Discipline
  /-- The layers rewrite data. -/
  | rewriting
  /-- The layers render data. Either none of them refuses any, or all of them forward faults. -/
  | rendering (refusing : Bool)

/-- What a registry has under a name of layers that go together with others. -/
inductive Rewriting (registry : EncoderRegistry) : Discipline → (name : String) → Prop
  /-- Layers that do nothing. -/
  | identity {discipline : Discipline} {name : String}
      (made : registry.get? name = some (.always Coding.identityEncoder ())) :
      Rewriting registry discipline name
  /-- LZW layers with some scratch space. -/
  | compress {discipline : Discipline} {name : String} {patience scratch : Nat}
      (roomy : 1 ≤ scratch)
      (made : registry.get? name = some (.always (Lzw.encoder patience scratch) {})) :
      Rewriting registry discipline name
  /-- Any other layers that rewrite data. -/
  | rewriting {name : String} {factory : EncoderFactory} {emit : Bytes → Bytes}
      (made : registry.get? name = some factory) (rewrites : factory.Rewrites emit) :
      Rewriting registry .rewriting name
  /-- Any other layers that render data. -/
  | rendering {refusing : Bool} {name : String} {factory : EncoderFactory} {rendering : Rendering}
      (made : registry.get? name = some factory) (renders : factory.Renders refusing rendering) :
      Rewriting registry (.rendering refusing) name

/-- All of the first kind rewrite data. -/
theorem Rewriting.rewrites {registry : EncoderRegistry} {name : String}
    (h : Rewriting registry .rewriting name) :
    ∃ factory emit, registry.get? name = some factory ∧ factory.Rewrites emit := by
  cases h with
  | identity made => exact ⟨_, _, made, Coding.identity_rewrites⟩
  | @compress _ _ patience _ roomy made => exact ⟨_, _, made, Lzw.encoder_rewrites patience roomy⟩
  | rewriting made rewrites => exact ⟨_, _, made, rewrites⟩

/-- All of the second kind render data. -/
theorem Rewriting.renders {registry : EncoderRegistry} {refusing : Bool} {name : String}
    (h : Rewriting registry (.rendering refusing) name) :
    ∃ factory rendering, registry.get? name = some factory ∧
      factory.Renders refusing rendering := by
  cases h with
  | identity made => exact ⟨_, _, made, Coding.identity_renders refusing⟩
  | @compress _ _ patience _ roomy made =>
    exact ⟨_, _, made, Lzw.encoder_renders patience roomy refusing⟩
  | rendering made renders => exact ⟨_, _, made, renders⟩

namespace EncoderRegistry

variable {registry : EncoderRegistry}

/-- The layers of some names, the first of them lowest, rewrite data together. -/
def Rewrites (registry : EncoderRegistry) (names : List String) (emit : Bytes → Bytes) : Prop :=
  ∀ script, Feed.Proper script → ∃ sent, Feed.Proper sent ∧
    registry.Transcribes names script sent ∧ Feed.content sent = emit (Feed.content script)

/-- One chain over another rewrites what the upper puts out. -/
theorem Rewrites.append {lower upper : List String} {emit other : Bytes → Bytes}
    (hupper : registry.Rewrites upper other) (hlower : registry.Rewrites lower emit) :
    registry.Rewrites (lower ++ upper) (emit ∘ other) := by
  intro script hscript
  obtain ⟨between, hbetween, htrans, hcontent⟩ := hupper script hscript
  obtain ⟨sent, hsent, hwrites, hemitted⟩ := hlower between hbetween
  refine ⟨sent, hsent, transcribes_append htrans hwrites, ?_⟩
  rw [hemitted, hcontent, Function.comp_apply]

end EncoderRegistry

variable {registry : EncoderRegistry} {order : List String} {patience : Nat} {data encoded : Bytes}

/-- One-shot encoding with layers that transcribe the data as one piece succeeds, and gives the
content of what they perform. -/
theorem compress_of_transcribes {sent : List Feed}
    (htrans : registry.Transcribes (order.filter (· != "")) (Feed.rest data []) sent)
    (patience : Nat) : compress patience registry order data = .done (Feed.content sent) := by
  let received : Array UInt8 → Bytes → Prop := fun taken got => taken.toList = got
  have hfirst : received #[] [] := rfl
  obtain ⟨hinit, hready⟩ := Compressor.init_ready htrans hfirst
  have hopen : Compressor.openOn (#[] : Array UInt8) registry order =
      (.done (), (Compressor.create #[] registry order).init.2) := Prod.ext hinit rfl
  obtain ⟨hwritten, hdone⟩ :=
    hready.writeAllFor collects_array (Nat.le_add_right data.length patience)
  rw [compress, hopen]
  dsimp only
  rw [Compressor.writeAll]
  generalize Compressor.writeAllFor (data.length + patience)
    (Compressor.create (#[] : Array UInt8) registry order).init.2 data = written at hwritten hdone
  obtain ⟨answer, after⟩ := written
  dsimp only at hwritten hdone
  subst hwritten
  obtain ⟨hclosed, htaken⟩ := hdone.close collects_array
  dsimp only
  generalize after.close = closed at hclosed htaken
  obtain ⟨result, last⟩ := closed
  dsimp only at hclosed htaken
  subst hclosed
  rw [← htaken]

end ContentCoding
