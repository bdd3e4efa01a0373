import PlanRunner.Proofs.Run.Verdicts
import PlanRunner.Proofs.Wire.Plans
import PlanRunner.Run.Rehearsal

/-!
# Plans that are stored between runs

Whatever value a plan holds after a run, it has held before or it is what a turn has ended with. So
the plan can be stored as a text after any number of runs, and is read back from there. Only a
result of null is lost on the way: it is read back as no result at all, and a step that refers to it
finds nothing.
-/

namespace PlanRunner

open Progress Relation

variable {settings : Settings} {environment : Environment} {plan : Plan}
  {progress last : Progress} {step : Step} {value : Json}

/-! ## Where values come from -/

/-- A turn ends with an answer that holds a value. -/
def Turn.Gives (turn : Turn) (value : Json) : Prop :=
  ∃ retryCount attempts, turn.ending = .settled (.success value) retryCount attempts

/-- Some turn of a batch ends with an answer that holds a value. -/
def Batch.Gives (batch : Batch) (value : Json) : Prop :=
  ∃ turn ∈ batch.turns, turn.Gives value

/-- What a step holds after its turn, it has held before or the turn gives it. -/
theorem Turn.mem_values_marked {turn : Turn} (member : value ∈ turn.marked.values) :
    value ∈ turn.step.values ∨ turn.Gives value := by
  unfold marked mark at member
  split at member
  · exact .inl member
  · rename_i content retryCount attempts succeeded
    rcases List.mem_cons.1 member with rfl | result
    · exact .inl List.mem_cons_self
    · rw [List.mem_singleton.1 result]
      exact .inr ⟨retryCount, attempts, succeeded⟩
  · rcases List.mem_cons.1 member with rfl | result
    · exact .inl List.mem_cons_self
    · contradiction

theorem Plan.mem_values_iff : value ∈ plan.values ↔
    (∃ step ∈ plan.steps, value ∈ step.values) ∨
      ∃ entry ∈ plan.metadata.extra, entry.2 = value := by
  simp [values]

/-- The status of its steps does not matter to what a plan holds. -/
theorem Plan.values_withStatus (plan : Plan) (ids : List String) (status : StepStatus) :
    (plan.withStatus ids status).values = plan.values := by
  have same : ∀ step : Step,
      (if step.id ∈ ids then { step with status } else step).values = step.values := by
    intro step
    split <;> rfl
  simp only [values, withStatus, List.flatMap_map, same]

theorem Plan.values_started (plan : Plan) : plan.started.values = plan.values := by
  have same : ∀ step : Step, step.rested.values = step.values := by
    intro step
    unfold Step.rested
    split <;> rfl
  have steps : plan.started.steps = plan.steps.map Step.rested := rfl
  have metadata : plan.started.metadata = plan.metadata := rfl
  simp only [values, steps, metadata, List.flatMap_map, same]

namespace Progress

/-- What a plan holds after a batch, it has held before or the batch gives it. -/
theorem mem_values_next (distinct : Step.Distinct progress.plan.steps)
    (member : value ∈ (progress.next settings environment).plan.values) :
    value ∈ progress.plan.values ∨ (progress.nextBatch settings environment).Gives value := by
  rw [plan_next distinct] at member
  rcases Plan.mem_values_iff.1 member with ⟨after, afterMember, held⟩ | extra
  · obtain ⟨step, stepMember, rfl⟩ := List.mem_map.1 afterMember
    have before : value ∈ step.values → value ∈ progress.plan.values :=
      fun held => Plan.mem_values_iff.2 (.inl ⟨step, stepMember, held⟩)
    by_cases chosen : step.id ∈ progress.chosen settings
    · rw [stepAfter, if_pos chosen] at held
      rcases Turn.mem_values_marked held with old | given
      · rw [Turn.step_take] at old
        exact .inl (before old)
      · exact .inr ⟨_, take_mem_nextBatch environment distinct stepMember chosen, given⟩
    · rw [stepAfter, if_neg chosen] at held
      exact .inl (before held)
  · exact .inl (Plan.mem_values_iff.2 (.inr extra))

/-- Whatever the plan holds by now, it has held at first or some batch gives it. -/
def Traced (plan : Plan) (progress : Progress) : Prop :=
  ∀ value ∈ progress.plan.values,
    value ∈ plan.values ∨ ∃ batch ∈ progress.batches, batch.Gives value

theorem traced_start (plan : Plan) : Traced plan (start plan) := by
  intro value member
  rw [← plan.values_started]
  exact .inl member

theorem Traced.next (traced : Traced plan progress)
    (distinct : Step.Distinct progress.plan.steps) :
    Traced plan (progress.next settings environment) := by
  intro value member
  rcases mem_values_next distinct member with old | given
  · rcases traced value old with start | ⟨batch, batchMember, given⟩
    · exact .inl start
    · exact .inr ⟨batch, List.mem_append_left _ batchMember, given⟩
  · exact .inr ⟨_, List.mem_append_right _ List.mem_cons_self, given⟩

theorem traced_of_reaches (valid : plan.Valid)
    (reaches : Reaches settings environment (start plan) last) : Traced plan last := by
  induction reaches with
  | refl => exact traced_start plan
  | tail reached advances ih =>
      rw [advances.next]
      exact ih.next (valid.coherent_start.of_reaches reached).distinct

end Progress

/-- The end of a run changes nothing about what the plan holds. -/
theorem Run.values_finish (settings : Settings) (environment : Environment) (plan : Plan)
    (progress : Progress) (stop : Stop) :
    (finish settings environment plan progress stop).plan.values = progress.plan.values := by
  cases stop with
  | broken error => rfl
  | drained | cancelled ready => exact Plan.values_withStatus progress.plan _ .skipped

/-- What a plan holds after a run, it has held before or a batch of the run gives it. -/
theorem Plan.mem_values_run (member : value ∈ (plan.run settings environment).plan.values) :
    value ∈ plan.values ∨ ∃ batch ∈ (plan.run settings environment).batches, batch.Gives value := by
  by_cases valid : plan.Valid
  · obtain ⟨last, final, stop, reaches, stops, ran⟩ := valid.run_stops settings environment
    rw [ran, Run.values_finish] at member
    rw [ran, Run.batches_finish]
    have traced := traced_of_reaches valid reaches
    cases stops with
    | drained drained => exact traced value member
    | cancelled ready cancelled => exact traced value member
    | broken ready free broke =>
        -- The outcomes of the batch that broke down are written back all the same.
        exact traced.next (valid.coherent_start.of_reaches reaches).distinct value member
  · obtain ⟨error, ran⟩ := Plan.run_of_not_valid valid settings environment
    rw [ran] at member
    exact .inl member

/-- A run leaves the unknown entries of the metadata alone. -/
theorem Plan.extra_run (settings : Settings) (environment : Environment) (plan : Plan) :
    (plan.run settings environment).plan.metadata.extra = plan.metadata.extra := by
  cases outcome : (plan.run settings environment).outcome with
  | ok report => rw [(Plan.ruled_of_run_ok outcome).metadata]
  | error error => rw [Plan.metadata_of_run_error outcome]

/-! ## Stored plans -/

namespace Plan

/-- Writes a plan as a text and reads the text. -/
def reload (plan : Plan) : Except ReadError Plan :=
  Reader.ofText Plan.read plan.toJson.compact

/-- A plan as it comes from a planner: read from a text, or built with normal values. -/
inductive Given : Plan → Prop where
  | parsed {text : String} {plan : Plan} (read : Reader.ofText Plan.read text = .ok plan) :
      Given plan
  | built {plan : Plan} (plain : plan.metadata.extra = [])
      (normal : ∀ value ∈ plan.values, value.Normal) : Given plan

/-- A plan is run once, in whatever world, and gets answers that hold normal values. -/
def Ran (before after : Plan) : Prop :=
  ∃ settings environment, after = (before.run settings environment).plan ∧
    ∀ batch ∈ (before.run settings environment).batches, ∀ value, batch.Gives value → value.Normal

/-- Whether a plan is normal depends on the values and the unknown entries. -/
theorem normal_iff : plan.Normal ↔ (∀ value ∈ plan.values, value.Normal) ∧
    Keyed.Sorted plan.metadata.extra ∧
    ∀ entry ∈ plan.metadata.extra, entry.1 ∉ Metadata.knownFields.map (·.name) := by
  constructor
  · intro normal
    refine ⟨fun value member => ?_, normal.metadata.sorted, normal.metadata.unknown⟩
    rcases mem_values_iff.1 member with ⟨step, stepMember, held⟩ | ⟨entry, entryMember, rfl⟩
    · exact normal.steps step stepMember value held
    · exact normal.metadata.values entry entryMember
  · rintro ⟨values, sorted, unknown⟩
    refine ⟨fun step member value held => ?_, sorted, unknown, fun entry member => ?_⟩
    · exact values value (mem_values_iff.2 (.inl ⟨step, member, held⟩))
    · exact values entry.2 (mem_values_iff.2 (.inr ⟨entry, member, rfl⟩))

theorem Given.normal (given : plan.Given) : plan.Normal := by
  cases given with
  | parsed read => exact (fits_of_ofText read).1
  | built plain normal =>
      refine normal_iff.2 ⟨normal, ?_, ?_⟩
      · rw [plain]
        exact List.Pairwise.nil
      · rw [plain]
        exact nofun

theorem Ran.normal {before after : Plan} (ran : before.Ran after) (normal : before.Normal) :
    after.Normal := by
  obtain ⟨settings, environment, rfl, answers⟩ := ran
  obtain ⟨values, entries⟩ := normal_iff.1 normal
  refine normal_iff.2 ⟨fun value member => ?_, ?_⟩
  · rcases mem_values_run member with old | ⟨batch, batchMember, given⟩
    · exact values value old
    · exact answers batch batchMember value given
  · rw [extra_run]
    exact entries

/-- However often it is run, a plan stays normal. -/
theorem Given.normal_of_runs {origin : Plan} (given : origin.Given)
    (runs : ReflTransGen Ran origin plan) : plan.Normal := by
  induction runs with
  | refl => exact given.normal
  | tail _ ran ih => exact ran.normal ih

end Plan

/--
A plan that has been run any number of times is read back from its text as it is exactly if no
result is null and no value is nested too deeply. But for the depth, null results are all that is
lost. Where nothing is lost, the next run goes as if the plan had not been stored.
-/
theorem reload_eq_self_iff_of_runs {origin : Plan} (given : origin.Given)
    (runs : ReflTransGen Plan.Ran origin plan) (numbers : ∀ value ∈ plan.values, value.ReadsBack) :
    (plan.reload = .ok plan ↔
      plan.Shallow ∧ ∀ step ∈ plan.steps, step.result ≠ some .null) ∧
    (plan.Shallow → plan.reload = .ok plan.forgetNulls) ∧
    (plan.Shallow → (∀ step ∈ plan.steps, step.result ≠ some .null) →
      ∀ settings environment,
        plan.reload.map (·.run settings environment) = .ok (plan.run settings environment)) := by
  have normal := given.normal_of_runs runs
  have recovered : plan.Shallow → plan.reload = .ok plan.forgetNulls :=
    fun shallow => Plan.ofText_compact normal shallow numbers
  have same : plan.Shallow → (∀ step ∈ plan.steps, step.result ≠ some .null) →
      plan.reload = .ok plan := by
    intro shallow results
    rw [recovered shallow, Plan.forgetNulls_eq_self_iff.2 results]
  refine ⟨⟨fun reloaded => ?_, fun ⟨shallow, results⟩ => same shallow results⟩, recovered, ?_⟩
  · -- What is read back has been read from a text, so that it is not nested too deeply.
    have shallow := (Plan.fits_of_ofText reloaded).2
    rw [recovered shallow] at reloaded
    exact ⟨shallow, Plan.forgetNulls_eq_self_iff.1 (Except.ok.inj reloaded)⟩
  · intro shallow results settings environment
    rw [same shallow results, Except.map]

/-- A step, and a step that refers to its result. -/
def surveyPlan : Plan :=
  { Plan.blank with
    id := "survey"
    steps :=
      [Step.new "ask" "count" .null,
        (Step.new "note" "write" (.string "\x7b\x7bask\x7d\x7d")).dependingOn ["ask"]] }

/-- A world in which the first step gets an answer, and the run is cancelled at some point. -/
def surveyWorld (content : Json) (cancelAt : Option CancelPoint) : Environment :=
  Rehearsal.environment
    { context := {}, scripts := [("ask", [⟨5, .success content⟩])], cancelAt
      cuesResolver := false } "run" default

/-- The plan after a run that was cancelled when the first step had its answer. -/
def askedPlan (content : Json) : Plan :=
  (surveyPlan.run {} (surveyWorld content (some (.afterStep "ask")))).plan

theorem surveyPlan_given : surveyPlan.Given := by
  have values : surveyPlan.values = [.null, .string "\x7b\x7bask\x7d\x7d"] := rfl
  refine .built rfl ?_
  rw [values]
  simp [Json.Normal]

/-- The run is one that gets normal answers if the only answer is normal. -/
theorem ran_askedPlan {content : Json} (normal : content.Normal)
    (answered : ∀ batch ∈ (surveyPlan.run {}
      (surveyWorld content (some (.afterStep "ask")))).batches, ∀ turn ∈ batch.turns,
        turn.ending = .settled (.success content) 0 1) : surveyPlan.Ran (askedPlan content) := by
  refine ⟨{}, surveyWorld content (some (.afterStep "ask")), rfl, ?_⟩
  rintro batch batchMember value ⟨turn, turnMember, retryCount, attempts, given⟩
  have ended := answered batch batchMember turn turnMember
  rw [given] at ended
  injection ended with same
  injection same with same
  exact same ▸ normal

/-- An answer to the first step. -/
def surveyCount : Json :=
  .object [("count", Writer.word32 3)]

/-- Stored after a run that got a count, the plan stays as it is, and so does what follows. -/
theorem reload_eq_self_iff_of_runs_counted :
    (askedPlan surveyCount).reload = .ok (askedPlan surveyCount) ∧
      ∀ settings environment,
        (askedPlan surveyCount).reload.map (·.run settings environment) =
          .ok ((askedPlan surveyCount).run settings environment) := by
  have normal : surveyCount.Normal := by
    simp [surveyCount, Json.Normal, Json.NormalFields, Keyed.Sorted, Writer.word32]
  have ran := ran_askedPlan normal (by decide +kernel)
  have values : (askedPlan surveyCount).values =
      [.null, surveyCount, .string "\x7b\x7bask\x7d\x7d"] := by decide +kernel
  have numbers : ∀ value ∈ (askedPlan surveyCount).values, value.ReadsBack := by
    rw [values]
    simp only [surveyCount, List.forall_mem_cons, Json.ReadsBack, Json.ReadsBackFields]
    exact ⟨trivial, ⟨Number.readsBack_integer _ _, trivial⟩, trivial, by simp⟩
  have shallow : (askedPlan surveyCount).Shallow := by decide +kernel
  have results : ∀ step ∈ (askedPlan surveyCount).steps, step.result ≠ some .null := by
    decide +kernel
  obtain ⟨iff, -, later⟩ := reload_eq_self_iff_of_runs surveyPlan_given (.single ran) numbers
  exact ⟨iff.2 ⟨shallow, results⟩, later shallow results⟩

/--
After a run that got null the plan is read back without the result: in memory the next run finishes
it, and read back it fails for want of the result.
-/
theorem null_result_is_lost :
    surveyPlan.Given ∧ surveyPlan.validate.toBool = true ∧ surveyPlan.Ran (askedPlan .null) ∧
    (∀ value ∈ (askedPlan .null).values, value.ReadsBack) ∧
    (askedPlan .null).reload = .ok (askedPlan .null).forgetNulls ∧
    (askedPlan .null).forgetNulls ≠ askedPlan .null ∧
    ((askedPlan .null).run {} (surveyWorld .null none)).outcome.toOption.map (·.failedSteps) =
      some [] ∧
    ((askedPlan .null).forgetNulls.run {} (surveyWorld .null none)).outcome.toOption.map
      (·.failedSteps) = some ["note"] := by
  have ran : surveyPlan.Ran (askedPlan .null) := ran_askedPlan trivial (by decide +kernel)
  have values : (askedPlan .null).values =
      [.null, .null, .string "\x7b\x7bask\x7d\x7d"] := by decide +kernel
  have numbers : ∀ value ∈ (askedPlan .null).values, value.ReadsBack := by
    rw [values]
    simp [Json.ReadsBack]
  have shallow : (askedPlan .null).Shallow := by decide +kernel
  have normal := ran.normal surveyPlan_given.normal
  exact ⟨surveyPlan_given, by decide +kernel, ran, numbers,
    Plan.ofText_compact normal shallow numbers, by decide +kernel, by decide +kernel,
    by decide +kernel⟩

end PlanRunner
