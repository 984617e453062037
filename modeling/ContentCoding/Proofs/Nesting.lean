import ContentCoding.Proofs.Format

/-!
# One format within another

A format may have the units of another among its own, under modes of its own, and go on with a
unit of its own where the other ends. It then reads what the other reads. As long as the units
inside forget nothing, what it remembers of their output is all of it, and that is what a check
behind them looks at.

The main statement is that a stream of the format inside leads to the unit behind it, with the
same output.
-/

namespace ContentCoding

namespace Scan

variable {α β : Type}

/-- A scan that never forgets the output so far. -/
def Keeps : Scan α → Prop
  | .done _ => True
  | .fail _ => True
  | .bit next => ∀ bit, (next bit).Keeps
  | .byte next => ∀ byte, (next byte).Keeps
  | .emit _ next => (next ()).Keeps
  | .copy _ _ next => (next ()).Keeps
  | .forget _ => False
  | .inspect next => ∀ history bitsLeft, (next history bitsLeft).Keeps

/-- One such scan after another is one. -/
theorem Keeps.bind {first : Scan α} {second : α → Scan β} (hfirst : first.Keeps)
    (hsecond : ∀ result, (second result).Keeps) : (first.bind second).Keeps := by
  induction first with
  | done result => exact hsecond result
  | fail failure => trivial
  | bit next ih => exact fun bit => ih bit (hfirst bit)
  | byte next ih => exact fun byte => ih byte (hfirst byte)
  | emit bytes next ih => exact ih () hfirst
  | copy distance length next ih => exact ih () hfirst
  | forget next => exact hfirst.elim
  | inspect next ih => exact fun history bitsLeft => ih history bitsLeft (hfirst history bitsLeft)

/-- A condition forgets nothing. -/
theorem keeps_require (condition : Bool) (failure : Failure) :
    (require condition failure).Keeps := by
  cases condition <;> trivial

/-- Bits forget nothing. -/
theorem keeps_bitsOnto (value weight count : Nat) : (bitsOnto value weight count).Keeps := by
  induction count generalizing value weight with
  | zero => trivial
  | succ count ih => exact fun bit => ih _ _

/-- Numbers forget nothing. -/
theorem keeps_bits (count : Nat) : (bits count).Keeps := keeps_bitsOnto 0 1 count

/-- Whole bytes forget nothing. -/
theorem keeps_bytes (count : Nat) : (bytes count).Keeps := by
  have hall : ∀ taken, (bytesAfter count taken).Keeps := by
    induction count with
    | zero => exact fun _ => trivial
    | succ count ih => exact fun taken byte => ih (byte :: taken)
  exact hall []

/-- Stored bytes forget nothing. -/
theorem keeps_store (count : Nat) : (store count).Keeps := by
  induction count with
  | zero => trivial
  | succ count ih => exact fun byte => ih

/-- A waiting scan that never forgets the output so far. -/
def Need.Keeps : Need α → Prop
  | .bit next => ∀ bit, (next bit).Keeps
  | .byte next => ∀ byte, (next byte).Keeps

/-- Change the result of a scan that has stopped. -/
def Halt.map (f : α → β) : Halt α → Halt β
  | .needs need => .needs (need.map f)
  | .done result => .done (f result)
  | .failed failure => .failed failure

/-- A scan whose result is changed stops where it did. -/
theorem advance_bind_done (f : α → β) (bitsLeft : Nat) (scan : Scan α) (trail : Trail) :
    advance bitsLeft (scan.bind fun result => .done (f result)) trail =
      ((advance bitsLeft scan trail).1.map f, (advance bitsLeft scan trail).2) := by
  induction scan generalizing trail with
  | done result => rfl
  | fail failure => rfl
  | bit next => rfl
  | byte next => rfl
  | emit bytes next ih => exact ih () _
  | copy distance length next ih => exact ih () _
  | forget next ih => exact ih () _
  | inspect next ih => exact ih _ _ _

/-- The output that is remembered is some output and behind it all that is to be handed on. -/
def Trail.Extends (base : Bytes) (trail : Trail) : Prop :=
  trail.history.toList = base ++ trail.fresh.reverse

namespace Trail.Extends

variable {base : Bytes} {trail : Trail}

/-- One more byte is remembered. -/
theorem push (h : trail.Extends base) (last : UInt8) : (trail.push last).Extends base := by
  have hlonger : (trail.history.push last).toList = base ++ (last :: trail.fresh).reverse := by
    rw [Array.toList_push, h, List.reverse_cons, List.append_assoc]
  exact hlonger

/-- Bytes are remembered. -/
theorem append (h : trail.Extends base) (bytes : Bytes) : (trail.append bytes).Extends base := by
  induction bytes generalizing trail with
  | nil => exact h
  | cons byte bytes ih => exact ih (h.push byte)

/-- So are copies. -/
theorem copy (h : trail.Extends base) (distance length : Nat) :
    (Trail.copy distance length trail).Extends base := by
  induction length generalizing trail with
  | zero => exact h
  | succ length ih => exact ih (h.push _)

end Trail.Extends

/-- A scan that never forgets remembers all output, and so does what it waits for. -/
theorem Keeps.advance {scan : Scan α} (hkeeps : scan.Keeps) (bitsLeft : Nat) {base : Bytes}
    {trail : Trail} (h : trail.Extends base) :
    (scan.advance bitsLeft trail).2.Extends base ∧
      ∀ need, (scan.advance bitsLeft trail).1 = .needs need → need.Keeps := by
  induction scan generalizing trail with
  | done result => exact ⟨h, nofun⟩
  | fail failure => exact ⟨h, nofun⟩
  | bit next =>
    refine ⟨h, ?_⟩
    rintro _ ⟨⟩
    exact hkeeps
  | byte next =>
    refine ⟨h, ?_⟩
    rintro _ ⟨⟩
    exact hkeeps
  | emit bytes next ih => exact ih () hkeeps (h.append bytes)
  | copy distance length next ih => exact ih () hkeeps (h.copy distance length)
  | forget next => exact hkeeps.elim
  | inspect next ih => exact ih _ _ (hkeeps _ _) h

end Scan

namespace Format

variable {inner outer : Format} {embed : inner.Mode → outer.Mode} {behind : outer.Mode}

/-- The units of one format are units of another under other modes. They forget nothing, nothing but
their own end ends them, and a unit of whole bytes comes behind the last one. -/
structure Nests (inner outer : Format) (embed : inner.Mode → outer.Mode) (behind : outer.Mode) :
    Prop where
  /-- A unit ends with the mode of the next one, or with what comes behind. -/
  unit : ∀ mode, outer.unit (embed mode) =
    (inner.unit mode).map fun next => some (next.elim behind embed)
  /-- The units forget nothing. -/
  keeps : ∀ mode, (inner.unit mode).Keeps
  /-- A stream that stops within or before a unit is incomplete. -/
  incomplete : ∀ mode begun, inner.ending mode begun ≠ .ok ()
  /-- What comes behind begins with a whole byte. -/
  whole : ∃ next, outer.unit behind = .byte next

/-- The place of the other format at a place of the one inside. -/
def nested (embed : inner.Mode → outer.Mode) (behind : outer.Mode) (place : Position inner) :
    Position outer :=
  ⟨embed place.mode, place.begun, place.need.map fun next => some (next.elim behind embed),
    place.history⟩

/-- How the other format goes on where the one inside does. The output extends what was remembered
before it. -/
inductive Goes (embed : inner.Mode → outer.Mode) (behind : outer.Mode) (base : Bytes) :
    Transition (Position inner) → Transition (Position outer) → Prop
  /-- Within the format inside the places are those of that format. -/
  | running {output : Bytes} {place : Position inner} (keeps : place.need.Keeps)
      (history : place.history.toList = base ++ output) :
      Goes embed behind base (.running output place) (.running output (nested embed behind place))
  /-- Where that format ends comes what is behind it. -/
  | finished {output : Bytes} {stored : Array UInt8} (history : stored.toList = base ++ output) :
      Goes embed behind base (.finished output) (.running output (before behind stored))
  /-- Failures are the same. -/
  | failed {failure : Failure} : Goes embed behind base (.failed failure) (.failed failure)

namespace Nests

variable {base : Bytes}

/-- Where a unit stops, it does in the other format, and the rest of the byte is looked at there. -/
theorem resume (h : Nests inner outer embed behind) {bits : List Bool}
    (hbits : ∀ (place : Position inner) fresh, place.need.Keeps →
      place.history.toList = base ++ fresh.reverse →
      Goes embed behind base (feedBits bits place fresh)
        (feedBits bits (nested embed behind place) fresh))
    (mode : inner.Mode) (bitsLeft : Nat) {scan : Scan (Option inner.Mode)} (hkeeps : scan.Keeps)
    {trail : Scan.Trail} (htrail : trail.Extends base) :
    Goes embed behind base (Format.resume bits (proceed mode bitsLeft scan trail))
      (Format.resume bits (proceed (embed mode) bitsLeft
        (scan.bind fun next => .done (some (next.elim behind embed))) trail)) := by
  obtain ⟨hextends, hneeds⟩ := hkeeps.advance bitsLeft htrail
  rw [proceed, proceed, Scan.advance_bind_done]
  generalize scan.advance bitsLeft trail = halted at hextends hneeds
  obtain ⟨halt, history, fresh⟩ := halted
  cases halt with
  | needs need => exact hbits ⟨mode, true, need, history⟩ fresh (hneeds need rfl) hextends
  | done next =>
    cases next with
    | none =>
      obtain ⟨following, hwhole⟩ := h.whole
      have hstays : feedBits bits (before behind history) fresh =
          .running fresh.reverse (before behind history) := by
        cases bits with
        | nil => rfl
        | cons bit bits => rw [before, hwhole, feedBits]
      change Goes embed behind base (.finished fresh.reverse)
        (feedBits bits (before behind history) fresh)
      rw [hstays]
      exact .finished hextends
    | some next =>
      have hnext : nested embed behind (before next history) = before (embed next) history := by
        rw [nested, before, before, h.unit]
      have hgoes := hbits (before next history) fresh (h.keeps next) hextends
      rw [hnext] at hgoes
      exact hgoes
  | failed failure => exact .failed

/-- The bits of a byte lead to the same place. -/
theorem feedBits (h : Nests inner outer embed behind) (bits : List Bool) {place : Position inner}
    {fresh : Bytes} (hkeeps : place.need.Keeps)
    (hhistory : place.history.toList = base ++ fresh.reverse) :
    Goes embed behind base (Format.feedBits bits place fresh)
      (Format.feedBits bits (nested embed behind place) fresh) := by
  induction bits generalizing place fresh with
  | nil => exact .running hkeeps hhistory
  | cons bit bits ih =>
    obtain ⟨mode, begun, need, history⟩ := place
    cases need with
    | byte next => exact .running hkeeps hhistory
    | bit next =>
      exact h.resume (fun place fresh hneed hbase => ih hneed hbase) mode bits.length (hkeeps bit)
        hhistory

/-- So does a byte. -/
theorem feed (h : Nests inner outer embed behind) {place : Position inner}
    (hkeeps : place.need.Keeps) (byte : UInt8) :
    Goes embed behind place.history.toList (Format.feed place byte)
      (Format.feed (nested embed behind place) byte) := by
  obtain ⟨mode, begun, need, history⟩ := place
  have hbase : history.toList = history.toList ++ ([] : Bytes).reverse := (List.append_nil _).symm
  cases need with
  | byte next =>
    exact h.resume (fun place fresh hneed hplace => h.feedBits [] hneed hplace) mode 0
      (hkeeps byte) hbase
  | bit next => exact h.feedBits (bitsOf byte) hkeeps hbase

/-- A stream of the format inside leads to what is behind it, with the same output, which is
remembered. -/
theorem through_of_toEnd (h : Nests inner outer embed behind) {encoded : Bytes}
    {place : Position inner} (hkeeps : place.need.Keeps) {output data : Bytes}
    (hend : inner.transducer.toEnd place encoded output = some data) :
    ∃ more stored, data = output.reverse ++ more ∧
      stored.toList = place.history.toList ++ more ∧
      outer.transducer.through (nested embed behind place) encoded output =
        some (data, before behind stored) := by
  induction encoded generalizing place output with
  | nil =>
    obtain ⟨hending, -⟩ := Transducer.of_toEnd_nil hend
    exact absurd hending (h.incomplete _ _)
  | cons byte encoded ih =>
    have hgoes := h.feed hkeeps byte
    generalize houter : Format.feed (nested embed behind place) byte = wider at hgoes
    obtain ⟨more, next, hfeed, hlater⟩ | ⟨more, hfeed, rfl, hdata⟩ :=
      Transducer.of_toEnd_cons hend
    · have hinner : Format.feed place byte = .running more next := hfeed
      rw [hinner] at hgoes
      cases hgoes with
      | running hneed hhistory =>
        obtain ⟨later, stored, hdata, hstored, hthrough⟩ := ih hneed hlater
        refine ⟨more ++ later, stored, ?_, ?_, ?_⟩
        · rw [hdata, Bytes.reverse_reverseAux, List.append_assoc]
        · rw [hstored, hhistory, List.append_assoc]
        · exact (Transducer.through_cons houter encoded output).trans hthrough
    · have hinner : Format.feed place byte = .finished more := hfeed
      rw [hinner] at hgoes
      cases hgoes with
      | @finished _ stored hhistory =>
        have hstep : outer.transducer.feed (nested embed behind place) byte =
            .running more (before behind stored) := houter
        have hlast : (more.reverseAux output).reverse = data :=
          (Bytes.reverse_reverseAux more output).trans hdata.symm
        exact ⟨more, stored, hdata, hhistory, (Transducer.through_cons hstep [] output).trans
          (congrArg (fun whole => some (whole, _)) hlast)⟩

/-- A whole stream of the format inside leads from its first unit to what is behind it. -/
theorem through_whole (h : Nests inner outer embed behind) {encoded data : Bytes}
    (hend : inner.transducer.toEnd inner.transducer.start encoded [] = some data) :
    ∃ stored : Array UInt8, stored.toList = data ∧
      outer.transducer.through (before (embed inner.start) #[]) encoded [] =
        some (data, before behind stored) := by
  obtain ⟨more, stored, hdata, hstored, hthrough⟩ := h.through_of_toEnd (h.keeps inner.start) hend
  obtain rfl : data = more := hdata
  have hstart : nested embed behind (before inner.start #[]) = before (embed inner.start) #[] :=
    congrArg (Position.mk _ _ · _) (h.unit inner.start).symm
  rw [← hstart]
  exact ⟨stored, hstored, hthrough⟩

end Nests

end Format

end ContentCoding
