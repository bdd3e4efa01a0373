import PlanRunner.Proofs.Run.Verdicts
import PlanRunner.Run.Rehearsal

/-!
# Plans that are run again and again

A plan goes through many runs. Between two of them its steps and its signals may be edited in any
way, and every run may have its own settings and its own world. As long as nobody but the runs
writes the replan count, each run adds one to it if it sends the plan back for replanning, and none
otherwise. A run sends a plan back only while the count is below its limit, so that the count stops
at the highest of the limits.
-/

namespace PlanRunner

/-- A run in the history of a plan. -/
structure Stage where
  settings : Settings
  environment : Environment
  /-- The plan as it is given to the run. -/
  plan : Plan

namespace Stage

variable {stage : Stage} {report : Report}

def run (stage : Stage) : Run :=
  stage.plan.run stage.settings stage.environment

def limit (stage : Stage) : UInt32 :=
  stage.settings.maxReplansPerPlan

/-- The replan count before the run. -/
def before (stage : Stage) : UInt32 :=
  stage.plan.metadata.replansCount

/-- The budget that the run has to keep to. -/
def budget (stage : Stage) : ReplanBudget :=
  ⟨stage.before, stage.limit⟩

/-- The replan count after the run. -/
def after (stage : Stage) : UInt32 :=
  stage.run.plan.metadata.replansCount

/-- Whether the run sends the plan back for replanning. -/
def replans (stage : Stage) : Bool :=
  match stage.run.outcome with
  | .ok report => report.needsReplan
  | .error _ => false

theorem ruled (outcome : stage.run.outcome = .ok report) :
    stage.plan.Ruled stage.settings stage.environment report :=
  Plan.ruled_of_run_ok outcome

theorem replans_of_ok (outcome : stage.run.outcome = .ok report) :
    stage.replans = report.needsReplan := by
  simp only [replans, outcome]

theorem after_eq_of_ok (outcome : stage.run.outcome = .ok report) :
    stage.after = report.replanBudget.used := by
  have ruled := stage.ruled outcome
  unfold after run
  rw [ruled.metadata, ruled.replanBudget]

/-- A run adds one to the count if it sends the plan back, and none otherwise. -/
theorem toNat_after (stage : Stage) :
    stage.after.toNat = stage.before.toNat + if stage.replans then 1 else 0 := by
  cases outcome : stage.run.outcome with
  | error error =>
      have kept : stage.after = stage.before :=
        congrArg Metadata.replansCount (Plan.metadata_of_run_error outcome)
      simp [kept, replans, outcome]
  | ok report =>
      have ruled := stage.ruled outcome
      rw [after_eq_of_ok outcome, replans_of_ok outcome, Report.needsReplan, ruled.replanBudget,
        ruled.conclusion]
      simp only [decide_eq_true_eq]
      exact Ruling.toNat_used_of _

end Stage

/-- Runs of one plan, from a replan count to another. Nothing changes the count between two runs. -/
inductive Lineage : UInt32 → List Stage → UInt32 → Prop where
  | nil (count : UInt32) : Lineage count [] count
  | cons (stage : Stage) {rest : List Stage} {last : UInt32}
      (later : Lineage stage.after rest last) :
      Lineage stage.before (stage :: rest) last

namespace Lineage

variable {first last : UInt32} {stages : List Stage}

/-- A plan of one step, with signals and a replan count. -/
def posterPlan (signals : Option Signals) (replansCount : UInt32) (arguments : Json) : Plan :=
  { Plan.blank with
    id := "poster"
    steps := [Step.new "print" "printer" arguments]
    metadata := { signals, replansCount } }

/-- A world in which the step gets an answer, unless its arguments break the resolver down. -/
def posterWorld (answer : Answer) : Environment :=
  Rehearsal.environment
    { context := {}, scripts := [("print", [⟨5, answer⟩])], cancelAt := none
      cuesResolver := true } "run" default

end Lineage

end PlanRunner
