import PlanRunner.Verdict.Ruling

/-!
# What a ruling says

A ruling asks for a new plan if the steps do, or if the signals alone do. A new plan that is asked
for is granted as long as the budget lasts, and is paid for; after that it is refused, and the
refusal is said. A run that asks for none is left as the steps concluded it, and costs nothing. The
problems that a ruling finds are those of the signals and a refusal, and nothing else.
-/

namespace PlanRunner

/-- A budget that is not used up can be used once more without running over. -/
theorem ReplanBudget.toNat_used_succ {budget : ReplanBudget} (left : budget.used < budget.limit) :
    (budget.used + 1).toNat = budget.used.toNat + 1 := by
  have small := budget.limit.toNat_lt
  rw [UInt32.lt_iff_toNat_lt] at left
  rw [UInt32.toNat_add]
  exact Nat.mod_eq_of_lt (by simp; omega)

/-- A budget lasts, or it is spent. -/
theorem ReplanBudget.left_or_spent (budget : ReplanBudget) :
    budget.used < budget.limit ∨ budget.limit ≤ budget.used := by
  rw [UInt32.lt_iff_toNat_lt, UInt32.le_iff_toNat_le]
  omega

theorem ReplanBudget.consume?_of_left {budget : ReplanBudget} (left : budget.used < budget.limit) :
    budget.consume? = some { budget with used := budget.used + 1 } := by
  have notSpent : ¬budget.limit ≤ budget.used := UInt32.not_le.2 left
  simp [consume?, isExhausted, notSpent]

theorem ReplanBudget.consume?_of_spent {budget : ReplanBudget}
    (spent : budget.limit ≤ budget.used) : budget.consume? = none := by
  simp [consume?, isExhausted, spent]

namespace Ruling

variable {tentative : Conclusion} {signals : Option Signals} {budget : ReplanBudget}

/-- The steps ask for a new plan, or they are complete and the signals ask for it. -/
def Asks (tentative : Conclusion) (signals : Option Signals) : Prop :=
  tentative = .needsReplan ∨ tentative = .complete ∧ Signals.reportProblems signals = true

theorem heed_of_asks (feedback : String) (asks : Asks tentative signals) :
    ∃ words, heed signals tentative feedback = (.needsReplan, words) := by
  unfold heed
  rcases asks with rfl | ⟨rfl, problems⟩
  · split <;> exact ⟨_, rfl⟩
  · rw [if_pos problems]
    exact ⟨_, rfl⟩

theorem heed_of_not_asks (feedback : String) (content : ¬Asks tentative signals) :
    heed signals tentative feedback = (tentative, feedback) := by
  unfold heed
  cases tentative with
  | complete =>
      have noProblems : ¬Signals.reportProblems signals = true :=
        fun problems => content (.inr ⟨rfl, problems⟩)
      rw [if_neg noProblems]
  | needsReplan => exact absurd (.inl rfl) content
  | deadlock => split <;> rfl

/-- While the budget lasts a new plan that is asked for is granted. -/
theorem of_granted (feedback : String) (asks : Asks tentative signals)
    (left : budget.used < budget.limit) :
    (of tentative feedback signals budget).conclusion = .needsReplan ∧
      (of tentative feedback signals budget).budget = { budget with used := budget.used + 1 } := by
  obtain ⟨words, heeded⟩ := heed_of_asks feedback asks
  simp [of, heeded, ReplanBudget.consume?_of_left left]

/-- Once the budget is spent a new plan that is asked for is refused, and the refusal is said. -/
theorem of_refused (feedback : String) (asks : Asks tentative signals)
    (spent : budget.limit ≤ budget.used) :
    (of tentative feedback signals budget).conclusion = .complete ∧
      (of tentative feedback signals budget).budget = budget ∧
      (of tentative feedback signals budget).hasProblems = true ∧
      ∃ rest, (of tentative feedback signals budget).feedback = limitFeedback ++ rest := by
  obtain ⟨words, heeded⟩ := heed_of_asks feedback asks
  simp only [of, heeded, ReplanBudget.consume?_of_spent spent, refusal, String.append_assoc]
  exact ⟨trivial, trivial, trivial, _, rfl⟩

/-- Where no new plan is asked for, the conclusion of the steps and their feedback stand. -/
theorem of_not_asks (feedback : String) (budget : ReplanBudget)
    (content : ¬Asks tentative signals) :
    (of tentative feedback signals budget).conclusion = tentative ∧
      (of tentative feedback signals budget).feedback = feedback ∧
      (of tentative feedback signals budget).budget = budget := by
  unfold of
  rw [heed_of_not_asks feedback content]
  cases tentative with
  | complete => exact ⟨rfl, rfl, rfl⟩
  | needsReplan => exact absurd (.inl rfl) content
  | deadlock => exact ⟨rfl, rfl, rfl⟩

/-- A deadlock of the steps is ruled a deadlock, and nothing else is. -/
theorem conclusion_eq_deadlock_iff (feedback : String) (budget : ReplanBudget) :
    (of tentative feedback signals budget).conclusion = .deadlock ↔ tentative = .deadlock := by
  by_cases asks : Asks tentative signals
  · have other : tentative ≠ .deadlock := by
      rcases asks with rfl | ⟨rfl, -⟩ <;> simp
    refine iff_of_false ?_ other
    rcases budget.left_or_spent with left | spent
    · simp [(of_granted feedback asks left).1]
    · simp [(of_refused feedback asks spent).1]
  · rw [(of_not_asks feedback budget asks).1]

/-- A new plan is granted exactly if one is asked for and the budget lasts. -/
theorem conclusion_eq_needsReplan_iff (feedback : String) :
    (of tentative feedback signals budget).conclusion = .needsReplan ↔
      Asks tentative signals ∧ budget.used < budget.limit := by
  by_cases asks : Asks tentative signals
  · rcases budget.left_or_spent with left | spent
    · exact iff_of_true (of_granted feedback asks left).1 ⟨asks, left⟩
    · refine iff_of_false ?_ fun granted => absurd granted.2 (UInt32.not_lt.2 spent)
      simp [(of_refused feedback asks spent).1]
  · refine iff_of_false ?_ fun granted => asks granted.1
    rw [(of_not_asks feedback budget asks).1]
    exact fun isReplan => asks (.inl isReplan)

/-- A new plan is refused exactly if one is asked for and the budget is spent. -/
theorem limitReached_of_iff (feedback : String) :
    (of tentative feedback signals budget).limitReached = true ↔
      Asks tentative signals ∧ budget.limit ≤ budget.used := by
  by_cases asks : Asks tentative signals
  · obtain ⟨words, heeded⟩ := heed_of_asks feedback asks
    rcases budget.left_or_spent with left | spent
    · refine iff_of_false ?_ fun refused => absurd left (UInt32.not_lt.2 refused.2)
      simp [of, heeded, ReplanBudget.consume?_of_left left]
    · refine iff_of_true ?_ ⟨asks, spent⟩
      simp [of, heeded, ReplanBudget.consume?_of_spent spent]
  · refine iff_of_false ?_ fun refused => asks refused.1
    rw [of, heed_of_not_asks feedback asks]
    cases tentative with
    | complete | deadlock => exact Bool.false_ne_true
    | needsReplan => exact absurd (.inl rfl) asks

/-- A ruling finds problems if the signals report some, or if it refuses a new plan. -/
theorem hasProblems_of (feedback : String) :
    (of tentative feedback signals budget).hasProblems =
      (Signals.reportProblems signals || (of tentative feedback signals budget).limitReached) := by
  unfold of
  split
  · split
    · exact (Bool.or_false _).symm
    · exact (Bool.or_true _).symm
  · exact (Bool.or_false _).symm

/-- A ruling is complete without problems exactly if the steps are and the signals report none. -/
theorem complete_without_problems_iff (feedback : String) :
    (of tentative feedback signals budget).conclusion = .complete ∧
        (of tentative feedback signals budget).hasProblems = false ↔
      tentative = .complete ∧ Signals.reportProblems signals = false := by
  by_cases asks : Asks tentative signals
  · refine iff_of_false ?_ ?_
    · rintro ⟨complete, noProblems⟩
      rcases budget.left_or_spent with left | spent
      · simp [(of_granted feedback asks left).1] at complete
      · simp [(of_refused feedback asks spent).2.2.1] at noProblems
    · rintro ⟨rfl, noProblems⟩
      rcases asks with isReplan | ⟨-, problems⟩
      · contradiction
      · simp [problems] at noProblems
  · have notRefused : (of tentative feedback signals budget).limitReached = false :=
      Bool.eq_false_iff.2 fun refused => asks ((limitReached_of_iff feedback).1 refused).1
    rw [(of_not_asks feedback budget asks).1, hasProblems_of, notRefused, Bool.or_false]

/-- A ruling uses up one replan if it grants a new plan, and none otherwise. -/
theorem toNat_used_of (feedback : String) :
    (of tentative feedback signals budget).budget.used.toNat =
      budget.used.toNat +
        if (of tentative feedback signals budget).conclusion = .needsReplan then 1 else 0 := by
  by_cases asks : Asks tentative signals
  · rcases budget.left_or_spent with left | spent
    · obtain ⟨granted, paid⟩ := of_granted feedback asks left
      rw [granted, paid, if_pos rfl]
      exact ReplanBudget.toNat_used_succ left
    · obtain ⟨refused, kept, -⟩ := of_refused feedback asks spent
      rw [refused, kept]
      rfl
  · obtain ⟨stands, -, kept⟩ := of_not_asks feedback budget asks
    rw [stands, kept, if_neg fun isReplan => asks (.inl isReplan)]
    rfl

end Ruling

end PlanRunner
