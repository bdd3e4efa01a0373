import Mathlib.Logic.Relation
import PlanRunner.Proofs.Run.Batches

/-!
# How a run goes on

A run advances batch by batch until no step is ready, until it is cancelled or until a resolver
breaks down. Every batch leaves fewer steps pending, so that the bound on the number of batches
never cuts a run short. The batches of a run tell through which points it has come.
-/

namespace PlanRunner

open Relation

variable {settings : Settings} {environment : Environment} {plan : Plan} {step : Step} {id : String}

/-- What a run never changes about a step. -/
def Step.design (step : Step) : Step :=
  { step with status := .pending, retryCount := 0, result := none, error := none }

theorem Step.id_eq_of_design {first second : Step} (same : first.design = second.design) :
    first.id = second.id := by
  injection same

theorem Step.dependencies_eq_of_design {first second : Step} (same : first.design = second.design) :
    first.dependencies = second.dependencies := by
  injection same

theorem Step.arguments_eq_of_design {first second : Step} (same : first.design = second.design) :
    first.arguments = second.arguments := by
  injection same

@[simp] theorem Turn.design_mark (ending : Ending) (step : Step) :
    (mark ending step).design = step.design := by
  unfold mark
  split <;> rfl

namespace Progress

variable {progress before after : Progress}

/-! ## Batch by batch -/

/-- A run takes one more batch, in which no resolver breaks down. -/
structure Advances (settings : Settings) (environment : Environment) (before after : Progress) :
    Prop where
  ready : Step.ready before.plan.steps ≠ []
  free : environment.cancelled before.batches = false
  settled : ∀ turn ∈ (before.nextBatch settings environment).turns, turn.Settled
  next : after = before.next settings environment

/-- A run takes any number of further batches. -/
abbrev Reaches (settings : Settings) (environment : Environment) : Progress → Progress → Prop :=
  ReflTransGen (Advances settings environment)

/-- Why a run takes no further batch, and how far it has come then. -/
inductive Stops (settings : Settings) (environment : Environment) :
    Progress → Progress → Stop → Prop where
  | drained {progress : Progress} (drained : Step.ready progress.plan.steps = []) :
      Stops settings environment progress progress .drained
  | cancelled {progress : Progress} (ready : Step.ready progress.plan.steps ≠ [])
      (cancelled : environment.cancelled progress.batches = true) :
      Stops settings environment progress progress
        (.cancelled (Step.ready progress.plan.steps).length)
  | broken {progress : Progress} {error : RunError} (ready : Step.ready progress.plan.steps ≠ [])
      (free : environment.cancelled progress.batches = false)
      (broke : ∃ turn ∈ (progress.nextBatch settings environment).turns, turn.error? = some error) :
      Stops settings environment progress (progress.next settings environment) (.broken error)

theorem runBatch_chosen (settings : Settings) (environment : Environment) (progress : Progress) :
    progress.runBatch settings environment (settings.batch (Step.ready progress.plan.steps)) =
      (progress.next settings environment,
        (environment.ended (progress.nextBatch settings environment).turns).findSome?
          Turn.error?) := rfl

/-! ## One batch -/

@[simp] theorem batches_next :
    (progress.next settings environment).batches =
      progress.batches ++ [progress.nextBatch settings environment] := rfl

@[simp] theorem records_next :
    (progress.next settings environment).records =
      progress.records ++
        (environment.ended (progress.nextBatch settings environment).turns).filterMap
          (·.record? (environment.startedAt.after progress.now)) := rfl

@[simp] theorem id_stepAfter : (stepAfter settings environment progress step).id = step.id := by
  unfold stepAfter
  split
  · simp [Turn.marked]
  · rfl

@[simp] theorem design_stepAfter :
    (stepAfter settings environment progress step).design = step.design := by
  unfold stepAfter
  split
  · rw [Turn.marked, Turn.design_mark, Turn.step_take]
    rfl
  · rfl

/-- A batch takes a step if one is ready. -/
theorem chosen_ne_nil (ready : Step.ready progress.plan.steps ≠ []) :
    progress.chosen settings ≠ [] :=
  settings.batch_ne_nil ready

theorem mem_next_iff (distinct : Step.Distinct progress.plan.steps) :
    step ∈ (progress.next settings environment).plan.steps ↔
      ∃ old ∈ progress.plan.steps, stepAfter settings environment progress old = step := by
  rw [plan_next distinct]
  exact List.mem_map

theorem distinct_next (distinct : Step.Distinct progress.plan.steps) :
    Step.Distinct (progress.next settings environment).plan.steps := by
  rw [plan_next distinct]
  exact (Step.distinct_map fun _ => id_stepAfter).2 distinct

/-- The steps that a batch takes are pending. -/
theorem pending_of_chosen (distinct : Step.Distinct progress.plan.steps)
    (member : step ∈ progress.plan.steps) (taken : step.id ∈ progress.chosen settings) :
    step.status = .pending := by
  exact (Step.isReady_iff.1 (isReady_of_chosen distinct member taken)).1

/-- A batch leaves the steps alone that are not pending. -/
theorem mem_next_of_not_pending (distinct : Step.Distinct progress.plan.steps)
    (member : step ∈ progress.plan.steps) (begun : step.status ≠ .pending) :
    step ∈ (progress.next settings environment).plan.steps := by
  refine (mem_next_iff distinct).2 ⟨step, member, if_neg fun taken => begun ?_⟩
  exact pending_of_chosen distinct member taken

/-- The step of a turn is as the turn has left it after the batch. -/
theorem marked_mem_next (distinct : Step.Distinct progress.plan.steps) {turn : Turn}
    (member : turn ∈ (progress.nextBatch settings environment).turns) :
    turn.marked ∈ (progress.next settings environment).plan.steps := by
  obtain ⟨step, stepMember, taken, rfl⟩ := (mem_nextBatch_iff distinct).1 member
  exact (mem_next_iff distinct).2 ⟨step, stepMember, if_pos taken⟩

/-- The turns of a batch add records of their steps. -/
theorem stepIds_next (advances : Advances settings environment before after) :
    after.records.map (·.stepId) = before.records.map (·.stepId) ++
      (environment.ended (before.nextBatch settings environment).turns).map (·.step.id) := by
  obtain ⟨-, -, settled, rfl⟩ := advances
  have ended := ended_perm environment (before.nextBatch settings environment).turns
  rw [records_next, List.map_append, Turn.stepIds_filterMap_record?]
  exact fun turn member => settled turn (ended.mem_iff.1 member)

theorem not_pending_marked {turn : Turn} (settled : turn.Settled) :
    turn.marked.status ≠ .pending := by
  rcases Turn.status_marked settled with succeeded | failed
  · simp [succeeded]
  · simp [failed]

/-! ## Looking back -/

/-- Up to a batch of a run that has gone on, the run had come to it before, or it is the last. -/
theorem split_batches_next {earlier later : List Batch} {batch : Batch}
    (split : (progress.next settings environment).batches = earlier ++ batch :: later) :
    (earlier = progress.batches ∧ batch = progress.nextBatch settings environment) ∨
      ∃ rest, progress.batches = earlier ++ batch :: rest := by
  rw [batches_next] at split
  rcases later.eq_nil_or_concat with rfl | ⟨rest, last, rfl⟩
  · obtain ⟨batches, single⟩ := List.append_inj' split rfl
    exact .inl ⟨batches.symm, (List.singleton_inj.1 single).symm⟩
  · rw [List.concat_eq_append, ← List.cons_append, ← List.append_assoc] at split
    exact .inr ⟨rest, (List.append_inj' split rfl).1⟩

/-- At every batch of a run the run had come to the point at which that batch was the next. -/
theorem exists_of_batches {start : Progress} (fresh : start.batches = [])
    (reaches : Reaches settings environment start progress) {earlier later : List Batch}
    {batch : Batch} (split : progress.batches = earlier ++ batch :: later) :
    ∃ middle, Reaches settings environment start middle ∧ middle.batches = earlier ∧
      middle.nextBatch settings environment = batch ∧
        Reaches settings environment middle progress := by
  induction reaches generalizing later with
  | refl => simp [fresh] at split
  | @tail before after reaches advances ih =>
      obtain rfl := advances.next
      rcases split_batches_next split with ⟨rfl, rfl⟩ | ⟨rest, earlierSplit⟩
      · exact ⟨before, reaches, rfl, rfl, .single advances⟩
      · obtain ⟨middle, toMiddle, batches, nextBatch, onwards⟩ := ih earlierSplit
        exact ⟨middle, toMiddle, batches, nextBatch, onwards.tail advances⟩

/-! ## Fewer and fewer pending steps -/

/-- How many steps of a plan are pending. -/
def left (progress : Progress) : Nat :=
  (progress.plan.steps.filter (·.status = .pending)).length

/-- Every batch leaves fewer steps pending. -/
theorem left_next_lt (distinct : Step.Distinct progress.plan.steps)
    (advances : Advances settings environment progress after) : after.left < progress.left := by
  have still : ∀ step ∈ progress.plan.steps,
      (stepAfter settings environment progress step).status = .pending ↔
        step.status = .pending ∧ step.id ∉ progress.chosen settings := by
    intro step member
    by_cases taken : step.id ∈ progress.chosen settings
    · have turnMember := take_mem_nextBatch environment distinct member taken
      have begun := not_pending_marked (advances.settled _ turnMember)
      simpa [stepAfter, taken] using begun
    · simp [stepAfter, taken]
  have lengths : after.left = ((progress.plan.steps.filter (·.status = .pending)).filter
      (·.id ∉ progress.chosen settings)).length := by
    rw [advances.next, left, plan_next distinct, List.filter_map, List.length_map,
      List.filter_filter]
    refine congrArg List.length (List.filter_congr fun step member => ?_)
    simp [still step member, Bool.and_comm]
  obtain ⟨id, taken⟩ : ∃ id, id ∈ progress.chosen settings :=
    List.exists_mem_of_ne_nil _ (chosen_ne_nil advances.ready)
  obtain ⟨step, member, rfl, -⟩ := exists_of_mem_chosen taken
  have pending := pending_of_chosen distinct member taken
  rw [lengths, left]
  refine List.length_filter_lt_length_iff_exists.2 ⟨step, ?_, by simpa using taken⟩
  simp [member, pending]

theorem ready_eq_nil_of_left (nothing : progress.left = 0) :
    Step.ready progress.plan.steps = [] := by
  refine Step.ready_eq_nil_iff.2 fun step member ready => ?_
  have absent := List.filter_eq_nil_iff.1 (List.length_eq_zero_iff.1 nothing) step member
  exact absent (by simpa using (Step.isReady_iff.1 ready).1)

/-! ## All batches -/

/-- Without a ready step no batch is taken. -/
theorem runBatches_of_drained (drained : Step.ready progress.plan.steps = []) (bound : Nat) :
    runBatches settings environment bound progress = (progress, .drained) := by
  cases bound with
  | zero => rfl
  | succ bound => simp only [runBatches, drained]

theorem runBatches_of_cancelled {bound : Nat} (ready : Step.ready progress.plan.steps ≠ [])
    (cancelled : environment.cancelled progress.batches = true) :
    runBatches settings environment (bound + 1) progress =
      (progress, .cancelled (Step.ready progress.plan.steps).length) := by
  simp only [runBatches, cancelled, if_true]

theorem runBatches_of_advances {bound : Nat}
    (advances : Advances settings environment progress after) :
    runBatches settings environment (bound + 1) progress =
      runBatches settings environment bound after := by
  obtain ⟨ready, free, settled, rfl⟩ := advances
  have unbroken : (environment.ended (progress.nextBatch settings environment).turns).findSome?
      Turn.error? = none :=
    List.findSome?_eq_none_iff.2 fun turn member =>
      settled turn ((ended_perm environment _).mem_iff.1 member)
  simp only [runBatches, free, runBatch_chosen, unbroken, Bool.false_eq_true, if_false]

/-- A run that may take as many batches as steps are pending only stops for a reason. -/
theorem runBatches_stops (settings : Settings) (environment : Environment) {bound : Nat}
    (distinct : Step.Distinct progress.plan.steps) (enough : progress.left ≤ bound) :
    ∃ last, Reaches settings environment progress last ∧
      Stops settings environment last (runBatches settings environment bound progress).1
        (runBatches settings environment bound progress).2 := by
  -- The bound never cuts a run short, since every batch leaves fewer steps pending.
  induction bound generalizing progress with
  | zero =>
      exact ⟨progress, .refl, .drained (ready_eq_nil_of_left (Nat.le_zero.1 enough))⟩
  | succ bound ih =>
      by_cases ready : Step.ready progress.plan.steps = []
      · simp only [runBatches, ready]
        exact ⟨progress, .refl, .drained ready⟩
      · cases free : environment.cancelled progress.batches with
        | true =>
            simp only [runBatches, free, if_true]
            exact ⟨progress, .refl, .cancelled ready free⟩
        | false =>
            simp only [runBatches, free, runBatch_chosen]
            cases broke :
              (environment.ended (progress.nextBatch settings environment).turns).findSome?
                Turn.error? with
            | some error =>
                obtain ⟨turn, member, isBroken⟩ := List.exists_of_findSome?_eq_some broke
                have turnMember := (ended_perm environment _).mem_iff.1 member
                exact ⟨progress, .refl, .broken ready free ⟨turn, turnMember, isBroken⟩⟩
            | none =>
                have settled : ∀ turn ∈ (progress.nextBatch settings environment).turns,
                    turn.Settled := by
                  intro turn member
                  have ended := (ended_perm environment _).mem_iff.2 member
                  exact List.findSome?_eq_none_iff.1 broke turn ended
                have advances : Advances settings environment progress
                    (progress.next settings environment) := ⟨ready, free, settled, rfl⟩
                have fewer := left_next_lt distinct advances
                have enoughLeft : (progress.next settings environment).left ≤ bound := by omega
                obtain ⟨last, reaches, stops⟩ := ih (distinct_next distinct) enoughLeft
                exact ⟨last, .head advances reaches, stops⟩

end Progress

end PlanRunner
