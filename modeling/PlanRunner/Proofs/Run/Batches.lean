import PlanRunner.Proofs.Plan.Readiness
import PlanRunner.Proofs.Run.Turns

/-!
# What a batch does to a plan

The turns of a batch write to different steps, so that it does not matter in which order they end:
after the batch every step that took part is as its turn has left it, and every other step is as it
was. Nothing else about the plan changes.
-/

namespace PlanRunner

variable {settings : Settings} {environment : Environment} {plan : Plan} {progress : Progress}
  {steps : List Step} {step : Step} {ids : List String}

/-! ## Outcomes written back -/

namespace Turn

/-- A step after the outcomes of some turns have been written back. -/
def settle (turns : List Turn) (step : Step) : Step :=
  turns.foldl (fun step turn => if step.id = turn.step.id then mark turn.ending step else step) step

theorem settle_cons (turn : Turn) (rest : List Turn) (step : Step) :
    settle (turn :: rest) step =
      settle rest (if step.id = turn.step.id then mark turn.ending step else step) := rfl

/-- Outcomes are written back step by step, and to nothing but the steps. -/
theorem foldl_apply (turns : List Turn) (plan : Plan) :
    turns.foldl apply plan = { plan with steps := plan.steps.map (settle turns) } := by
  induction turns generalizing plan with
  | nil =>
      have unchanged : settle [] = id := rfl
      simp [unchanged]
  | cons turn rest ih =>
      rw [List.foldl_cons, ih]
      simp [apply, Plan.updateStep, settle_cons, Function.comp_def]

@[simp] theorem id_settle (turns : List Turn) (step : Step) :
    (settle turns step).id = step.id := by
  induction turns generalizing step with
  | nil => rfl
  | cons turn rest ih =>
      rw [settle_cons, ih]
      split
      · exact id_mark _ _
      · rfl

/-- Turns of other steps leave a step alone. -/
theorem settle_of_forall_ne {turns : List Turn} (others : ∀ turn ∈ turns, turn.step.id ≠ step.id) :
    settle turns step = step := by
  induction turns with
  | nil => rfl
  | cons turn rest ih =>
      have different := others turn List.mem_cons_self
      rw [settle_cons, if_neg different.symm]
      exact ih fun other member => others other (List.mem_cons_of_mem _ member)

/-- The only turn of a step decides what becomes of it. -/
theorem settle_of_mem {turns : List Turn} {turn : Turn}
    (distinct : (turns.map (·.step.id)).Nodup) (member : turn ∈ turns)
    (same : turn.step.id = step.id) : settle turns step = mark turn.ending step := by
  induction turns generalizing step with
  | nil => contradiction
  | cons first rest ih =>
      rw [List.map_cons, List.nodup_cons] at distinct
      rcases List.mem_cons.1 member with rfl | later
      · rw [settle_cons, if_pos same.symm]
        refine settle_of_forall_ne fun other otherMember equal => distinct.1 ?_
        rw [same, ← id_mark turn.ending step, ← equal]
        exact List.mem_map_of_mem otherMember
      · have different : step.id ≠ first.step.id := by
          intro equal
          refine distinct.1 ?_
          rw [← equal, ← same]
          exact List.mem_map_of_mem later
        rw [settle_cons, if_neg different]
        exact ih distinct.2 later same

end Turn

/-! ## The steps of a batch -/

/-- A step that takes part in a batch is running. -/
def Step.started (ids : List String) (step : Step) : Step :=
  if step.id ∈ ids then { step with status := .running } else step

@[simp] theorem Step.id_started (ids : List String) (step : Step) :
    (step.started ids).id = step.id := by
  unfold started
  split <;> rfl

theorem Step.started_of_mem (member : step.id ∈ ids) :
    step.started ids = { step with status := .running } := if_pos member

theorem Step.started_of_not_mem (absent : step.id ∉ ids) : step.started ids = step :=
  if_neg absent

namespace Progress

/-- The identifiers of the steps that the next batch takes. -/
def chosen (settings : Settings) (progress : Progress) : List String :=
  settings.batch (Step.ready progress.plan.steps)

/-- The plan at the start of the next batch. -/
def launched (settings : Settings) (progress : Progress) : Plan :=
  progress.plan.withStatus (progress.chosen settings) .running

/-- The next batch. -/
def nextBatch (settings : Settings) (environment : Environment) (progress : Progress) : Batch :=
  { startsAt := progress.now
    turns := turns settings environment (progress.launched settings) (progress.chosen settings) }

/-- How far the run has come after the next batch. -/
def next (settings : Settings) (environment : Environment) (progress : Progress) : Progress :=
  (progress.runBatch settings environment (progress.chosen settings)).1

end Progress

/-- A batch takes the first of the ready steps. -/
theorem Settings.batch_prefix (settings : Settings) (ready : List String) :
    settings.batch ready <+: ready := by
  unfold batch
  split
  · exact List.take_prefix _ _
  · exact List.prefix_rfl

/-- A batch takes a step if there is one to take. -/
theorem Settings.batch_ne_nil (settings : Settings) {ready : List String} (some : ready ≠ []) :
    settings.batch ready ≠ [] := by
  unfold batch
  cases capped : settings.batchCap? with
  | none => exact some
  | some cap =>
      have isCap := Settings.batchCap?_eq_some_iff.1 capped
      have positive : cap.toNat ≠ 0 := by
        intro isZero
        have capIsZero : cap = 0 := UInt64.toNat_inj.1 isZero
        subst capIsZero
        split at isCap
        · exact isCap.2 rfl
        · contradiction
      rw [Ne, List.take_eq_nil_iff, not_or]
      exact ⟨positive, some⟩

namespace Progress

theorem exists_of_mem_chosen {id : String} (member : id ∈ progress.chosen settings) :
    ∃ step ∈ progress.plan.steps, step.id = id ∧ Step.isReady progress.plan.steps step :=
  Step.mem_ready_iff.1 ((settings.batch_prefix _).subset member)

theorem isReady_of_chosen (distinct : Step.Distinct progress.plan.steps)
    (member : step ∈ progress.plan.steps) (chosen : step.id ∈ progress.chosen settings) :
    Step.isReady progress.plan.steps step = true := by
  obtain ⟨other, otherMember, same, ready⟩ := exists_of_mem_chosen chosen
  rwa [distinct.eq_of_id_eq otherMember member same] at ready

theorem nodup_chosen (distinct : Step.Distinct progress.plan.steps) :
    (progress.chosen settings).Nodup :=
  (Step.nodup_ready distinct).sublist (settings.batch_prefix _).sublist

theorem distinct_launched (distinct : Step.Distinct progress.plan.steps) :
    Step.Distinct (progress.launched settings).steps :=
  (Step.distinct_map (Step.id_started _)).2 distinct

/-- A step that a batch takes is found running at its start. -/
theorem find?_launched (distinct : Step.Distinct progress.plan.steps)
    (member : step ∈ progress.plan.steps) :
    Step.find? (progress.launched settings).steps step.id =
      some (step.started (progress.chosen settings)) := by
  refine (Step.find?_eq_some_iff (distinct_launched distinct)).2 ⟨?_, Step.id_started _ _⟩
  exact List.mem_map_of_mem member

/-- Every step that a batch takes has one turn in it. -/
theorem mem_nextBatch_iff (distinct : Step.Distinct progress.plan.steps) {turn : Turn} :
    turn ∈ (progress.nextBatch settings environment).turns ↔
      ∃ step ∈ progress.plan.steps, step.id ∈ progress.chosen settings ∧
        turn = Turn.take settings environment.toGateways (progress.launched settings).steps
          { step with status := .running } := by
  simp only [nextBatch, turns, List.mem_map, List.mem_filterMap]
  constructor
  · rintro ⟨started, ⟨id, member, found⟩, rfl⟩
    obtain ⟨step, stepMember, rfl, -⟩ := exists_of_mem_chosen member
    rw [find?_launched distinct stepMember, Option.some.injEq] at found
    rw [← found, Step.started_of_mem member]
    exact ⟨step, stepMember, member, rfl⟩
  · rintro ⟨step, stepMember, member, rfl⟩
    refine ⟨_, ⟨step.id, member, ?_⟩, rfl⟩
    rw [find?_launched distinct stepMember, Step.started_of_mem member]

theorem take_mem_nextBatch (environment : Environment)
    (distinct : Step.Distinct progress.plan.steps) (member : step ∈ progress.plan.steps)
    (chosen : step.id ∈ progress.chosen settings) :
    Turn.take settings environment.toGateways (progress.launched settings).steps
      { step with status := .running } ∈ (progress.nextBatch settings environment).turns :=
  (mem_nextBatch_iff distinct).2 ⟨step, member, chosen, rfl⟩

/-- The turns of a batch are those of the steps that it takes, in order. -/
theorem ids_nextBatch (environment : Environment)
    (distinct : Step.Distinct progress.plan.steps) :
    (progress.nextBatch settings environment).turns.map (·.step.id) = progress.chosen settings := by
  have found : ∀ id ∈ progress.chosen settings,
      (Step.find? (progress.launched settings).steps id).map (·.id) = some id := by
    intro id member
    obtain ⟨step, stepMember, rfl, -⟩ := exists_of_mem_chosen member
    simp [find?_launched distinct stepMember]
  have ids : (fun turn : Turn => turn.step.id) ∘
      Turn.take settings environment.toGateways (progress.launched settings).steps =
        fun step => step.id :=
    funext fun step => congrArg Step.id Turn.step_take
  unfold nextBatch turns
  rw [List.map_map, ids, List.map_filterMap, List.filterMap_congr found, List.filterMap_some]

theorem mem_chosen_of_mem_nextBatch (distinct : Step.Distinct progress.plan.steps) {turn : Turn}
    (member : turn ∈ (progress.nextBatch settings environment).turns) :
    turn.step.id ∈ progress.chosen settings := by
  rw [← ids_nextBatch environment distinct]
  exact List.mem_map_of_mem member

/-! ## After the batch -/

/-- A step after a batch: if it took part, it is as its turn has left it. -/
def stepAfter (settings : Settings) (environment : Environment) (progress : Progress)
    (step : Step) : Step :=
  if step.id ∈ progress.chosen settings then
    (Turn.take settings environment.toGateways (progress.launched settings).steps
      { step with status := .running }).marked
  else step

theorem ended_perm (environment : Environment) (turns : List Turn) :
    (environment.ended turns).Perm turns :=
  Ranked.sort_perm _ _

theorem nodup_ended (distinct : Step.Distinct progress.plan.steps) :
    ((environment.ended (progress.nextBatch settings environment).turns).map
      (·.step.id)).Nodup := by
  rw [((ended_perm environment _).map _).nodup_iff, ids_nextBatch environment distinct]
  exact nodup_chosen distinct

/-- While some turns of a batch have ended, the steps without a turn are as they were before. -/
theorem settle_started_of_not_mem {turns : List Turn}
    (part : turns ⊆ (progress.nextBatch settings environment).turns)
    (distinct : Step.Distinct progress.plan.steps) (absent : step.id ∉ progress.chosen settings) :
    Turn.settle turns (step.started (progress.chosen settings)) = step := by
  rw [Step.started_of_not_mem absent]
  refine Turn.settle_of_forall_ne fun turn member same => absent ?_
  rw [← same, ← ids_nextBatch environment distinct]
  exact List.mem_map_of_mem (part member)

/-- A batch changes the steps that it takes, each by its own turn, and nothing else. -/
theorem plan_next (distinct : Step.Distinct progress.plan.steps) :
    (progress.next settings environment).plan =
      { progress.plan with
        steps := progress.plan.steps.map (stepAfter settings environment progress) } := by
  have unfolded : (progress.next settings environment).plan =
      (environment.ended (progress.nextBatch settings environment).turns).foldl Turn.apply
        (progress.launched settings) := rfl
  rw [unfolded, Turn.foldl_apply]
  simp only [launched, Plan.withStatus]
  congr 1
  rw [List.map_map]
  refine List.map_congr_left fun step member => ?_
  change Turn.settle _ (step.started (progress.chosen settings)) = _
  by_cases taken : step.id ∈ progress.chosen settings
  · have turnMember := take_mem_nextBatch environment distinct member taken
    rw [Turn.settle_of_mem (nodup_ended distinct)
      ((ended_perm environment _).mem_iff.2 turnMember) (by simp)]
    simp [stepAfter, taken, Turn.marked, Step.started_of_mem taken]
  · rw [settle_started_of_not_mem (ended_perm environment _).subset distinct taken, stepAfter,
      if_neg taken]

end Progress

end PlanRunner
