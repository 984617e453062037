import ContentCoding.Encode.Deferred
import ContentCoding.Proofs.Encoding

/-!
# What deferred layers write

A deferred layer holds what it is given, and what it hands down are the opening of its coding and
the stream of its packer. It takes all of every piece at once, and each call first hands down what
is still to go out, so none of it depends on how much the writer below takes at a time.

The main statement is that such a layer writes every script, and that the content of what it
performs below is the opening and the stream for that script.
-/

namespace ContentCoding

universe u v

namespace Push

/-- Changing the result of an exchange changes nothing else. -/
theorem Ends.map {α : Type u} {β : Type v} {push : Push α} {result : α} {script : List Feed}
    (h : push.Ends result script) (f : α → β) : (push.map f).Ends (f result) script :=
  fun later => Performs.map ((h later).mono fun _ _ hall => ⟨congrArg f hall.1, hall.2⟩)

/-- Delivering a piece performs it. -/
theorem deliver_ends (rule : DeliveryRule) (patience : Nat) (bytes : Bytes) :
    (deliver rule patience bytes).Ends ⟨.ok (), []⟩ (Feed.rest bytes []) := by
  intro later
  rw [← Feed.rest_eq_append]
  exact deliverFor_performs rule (Nat.le_add_right bytes.length patience) later

end Push

namespace Deferred

variable {packer : Packer}

/-- Sending hands down what is left of the opening, and then what is pending. -/
theorem send_ends (rule : DeferRule) (packing : packer.State) (opening pending : Bytes)
    (ended : Bool) :
    (send rule ⟨packing, opening, pending, ended⟩).Ends (.ok (), ⟨packing, [], [], ended⟩)
      (Feed.rest opening [] ++ Feed.rest pending []) :=
  (Push.deliver_ends rule.openingDelivery rule.patience opening).bind
    ((Push.deliver_ends rule.delivery rule.patience pending).map _)

/-- What sending hands down are these bytes. -/
theorem content_sent (opening pending : Bytes) :
    Feed.content (Feed.rest opening [] ++ Feed.rest pending []) = opening ++ pending := by
  rw [Feed.content_append, Feed.content_rest, Feed.content_rest, Feed.content, List.append_nil,
    List.append_nil]

/-- A deferred layer with nothing pending writes every script: the content of what it performs below
is what is left of the opening and the rest of the stream. -/
theorem writes (rule : DeferRule) (packing : packer.State) (opening : Bytes) (script : List Feed) :
    ∃ sent, (packer.encoder rule).Writes ⟨packing, opening, [], false⟩ script sent ∧
      Feed.content sent = opening ++ packer.encodeFrom packing script := by
  induction script generalizing packing opening with
  | nil =>
    have hends := send_ends rule packing opening (packer.finish packing) true
    exact ⟨_, ⟨_, hends, rfl⟩, content_sent _ _⟩
  | cons feed later ih =>
    cases feed with
    | piece data =>
      obtain ⟨rest, hwrites, hcontent⟩ := ih (packer.take packing data) []
      have hends : (write rule ⟨packing, opening, [], false⟩ data).Ends
          (.ok data.length, ⟨packer.take packing data, [], [], false⟩)
          (Feed.rest opening [] ++ Feed.rest [] []) :=
        (send_ends rule packing opening [] false).map _
      refine ⟨_ ++ rest, ⟨_, _, rest, rfl, hends, hwrites⟩, ?_⟩
      rw [Feed.content_append, content_sent, hcontent, List.append_nil, List.nil_append,
        Packer.encodeFrom]
    | flush =>
      obtain ⟨rest, hwrites, hcontent⟩ := ih (packer.flush packing).2 []
      have hends : (flush rule ⟨packing, opening, [], false⟩).Ends
          (.ok (), ⟨(packer.flush packing).2, [], [], false⟩)
          (Feed.rest opening [] ++ Feed.rest (packer.flush packing).1 [] ++ [.flush]) :=
        (send_ends rule (packer.flush packing).2 opening (packer.flush packing).1 false).bind
          fun later => ⟨later, rfl, rfl, rfl⟩
      refine ⟨_ ++ rest, ⟨_, _, rest, rfl, hends, hwrites⟩, ?_⟩
      rw [Feed.content_append, Feed.content_append, content_sent, hcontent, Packer.encodeFrom,
        Feed.content, Feed.content]
      simp only [List.append_assoc, List.nil_append]

end Deferred

end ContentCoding
