import ContentCoding.Proofs.Delivery

/-!
# Writers that respond

A writer responds if every offer that is made again after each interruption is answered otherwise in
the end: some bytes are taken, or none, or the write fails. So it may refuse and fail as it likes,
which one that persists may not. There need be no bound on the interruptions.

The main statement is that a complete write settles over every such writer.
-/

namespace ContentCoding

universe u v

/-- An offer that is made again after every interruption is answered otherwise in the end, and the
writer stays sound. -/
inductive Writer.EventuallyAnswers {W : Type v} (writer : Writer W) (sound : W → Prop)
    (data : Bytes) : W → Prop
  /-- Some bytes are taken, or none, or the write fails for good. -/
  | answers {world after : W} {answer : Except Fault Nat}
      (call : writer.write world data = (answer, after))
      (calm : ∀ fault, answer = .error fault → fault.isInterruption = false)
      (stays : sound after) : EventuallyAnswers writer sound data world
  /-- The write is interrupted, and answered when it is made again. -/
  | interrupted {world after : W} {fault : Fault} (interruption : fault.isInterruption = true)
      (call : writer.write world data = (.error fault, after))
      (again : EventuallyAnswers writer sound data after) :
      EventuallyAnswers writer sound data world

/-- Every offer to a sound writer is answered in the end. -/
def Writer.Responds {W : Type v} (writer : Writer W) (sound : W → Prop) : Prop :=
  ∀ world data, data ≠ [] → sound world → writer.EventuallyAnswers sound data world

/-- A writer that persists responds. -/
theorem Writer.Persists.responds {W : Type v} {writer : Writer W} {received : W → Bytes → Prop}
    (h : writer.Persists received) : writer.Responds fun world => ∃ got, received world got := by
  rintro world data hdata ⟨got, hgot⟩
  have htakes := h.write world got data hdata hgot
  clear hgot
  induction htakes with
  | takes some fits answer receives => exact .answers answer nofun ⟨_, receives⟩
  | interrupted interruption answer again ih => exact .interrupted interruption answer ih

namespace Push

variable {α β : Type u} {W : Type v} {writer : Writer W} {sound : W → Prop} {world : W}

/-- An exchange of which the result is changed settles if the exchange does. -/
theorem Settles.map {push : Nat → Push α} {result : α} {after : W}
    (h : Settles writer push world result after) (f : α → β) :
    Settles writer (fun patience => (push patience).map f) world (f result) after :=
  h.bind (settles_done (f result) after)

/-- An exchange settles if it does with its result tagged. -/
theorem Settles.of_map_some {push : Nat → Push α} {result : Option α} {after : W}
    (h : Settles writer (fun patience => (push patience).map some) world result after) :
    ∃ middle, result = some middle ∧ Settles writer push world middle after := by
  simp only [Settles, Push.map, run_bind, Push.run, Prod.mk.injEq] at h
  obtain ⟨patience, hresult, -⟩ := h.exists
  refine ⟨_, hresult.symm, h.mono fun patience hrun => ?_⟩
  exact Prod.ext (Option.some.inj (hrun.1.trans hresult.symm)) hrun.2

/-- Nothing is written all at once. -/
theorem writeAll_nil (patience : Nat) : writeAll patience [] = .done (.ok ()) := by
  rw [writeAll, deliver]
  cases ([] : Bytes).length + patience <;> rfl

/-- With attempts enough a delivery that makes interrupted writes again ends. -/
theorem deliverFor_responds (rule : DeliveryRule) (hrule : rule.retries = true)
    (hw : writer.Responds sound) (bytes : Bytes) {world : W} (hworld : sound world) :
    ∃ result after, sound after ∧
      Settles writer (fun attempts => deliverFor rule attempts bytes) world result after := by
  by_cases hnone : bytes = []
  · subst hnone
    refine ⟨⟨.ok (), []⟩, world, hworld, Filter.Eventually.of_forall fun attempts => ?_⟩
    cases attempts <;> rfl
  · have hanswers := hw world bytes hnone hworld
    obtain ⟨byte, rest, hbytes⟩ := List.exists_cons_of_ne_nil hnone
    clear hworld
    induction hanswers with
    | @answers world next answer call calm stays =>
      cases answer with
      | ok taken =>
        by_cases hzero : taken = 0
        · subst hzero
          refine ⟨⟨.error rule.refusal, bytes⟩, next, stays, ?_⟩
          refine (@settles_done _ _ writer _ next).succ fun attempts hrun => ?_
          rw [hbytes] at call hrun ⊢
          simp only [deliverFor, Push.run, call]
        · have hshorter : (bytes.drop taken).length < bytes.length := by
            have hlength := List.length_pos_iff.mpr hnone
            rw [List.length_drop]
            omega
          obtain ⟨result, after, hafter, hrest⟩ :=
            deliverFor_responds rule hrule hw (bytes.drop taken) stays
          refine ⟨result, after, hafter, hrest.succ fun attempts hrun => ?_⟩
          obtain ⟨count, rfl⟩ := Nat.exists_eq_succ_of_ne_zero hzero
          rw [hbytes] at call hrun ⊢
          simp only [deliverFor, Push.run, call]
          exact hrun
      | error fault =>
        have hcalm := calm fault rfl
        refine ⟨⟨.error fault, bytes⟩, next, stays, ?_⟩
        refine (@settles_done _ _ writer _ next).succ fun attempts hrun => ?_
        rw [hbytes] at call hrun ⊢
        simp only [deliverFor, Push.run, call, hcalm, Bool.and_false, Bool.false_eq_true, if_false]
    | @interrupted world next fault interruption call again ih =>
      obtain ⟨result, after, hafter, hrest⟩ := ih
      refine ⟨result, after, hafter, hrest.succ fun attempts hrun => ?_⟩
      rw [hbytes] at call hrun ⊢
      simp only [deliverFor, Push.run, call, hrule, interruption, Bool.and_self, if_true]
      exact hrun
termination_by bytes.length

/-- Over a writer that responds a complete write ends. -/
theorem writeAll_responds (hw : writer.Responds sound) (bytes : Bytes) (hworld : sound world) :
    ∃ answer after, sound after ∧
      Settles writer (fun patience => writeAll patience bytes) world answer after := by
  obtain ⟨result, after, hafter, hrun⟩ := deliverFor_responds .complete rfl hw bytes hworld
  have hdeliver : Settles writer (fun patience => deliver .complete patience bytes) world
      result after := by
    filter_upwards [(Filter.tendsto_add_atTop_nat bytes.length).eventually hrun] with patience hrest
    rw [deliver, Nat.add_comm]
    exact hrest
  exact ⟨result.outcome, after, hafter, hdeliver.map Delivery.outcome⟩

end Push

end ContentCoding
