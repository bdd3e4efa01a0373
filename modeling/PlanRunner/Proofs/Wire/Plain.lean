import PlanRunner.Proofs.Wire.Records
import PlanRunner.Wire.Graph
import PlanRunner.Wire.Report
import PlanRunner.Wire.Settings

/-!
# Records without free values

Graphs, settings and the smaller parts of reports hold texts, numbers and truth values only. Any
value of theirs is read back, with a fixed depth of nesting. Settings are the exception: the path of
their file is not written, but neither is it ever read.
-/

namespace PlanRunner

variable {room : Nat}

namespace Graph

/-- Writes a node. -/
def nodeToJson (id : String) : Json :=
  .object [("id", .string id)]

theorem restores_node (id : String) :
    nodeRecord.read.Restores (room + 1) (nodeToJson id) id :=
  Record.restores_of_fills (by decide) (.cons (Reader.restores_text id) (.nil _))

theorem restores_edge (edge : Edge) :
    Edge.record.read.Restores (room + 1) edge.toJson edge := by
  refine Record.restores_of_fills (by decide) ?_
  exact .cons (Reader.restores_text edge.source) <|
    .cons (Reader.restores_text edge.target) <|
    .nil _

theorem restores (graph : Graph) : read.Restores (room + 3) graph.toJson graph := by
  refine Record.restores_of_fills (by decide) ?_
  exact .cons (Reader.restores_list fun node _ => restores_node node) <|
    .cons (Reader.restores_list fun edge _ => restores_edge edge) <|
    .nil _

end Graph

theorem Conclusion.restores (conclusion : Conclusion) :
    Conclusion.read.Restores room (.string conclusion.name) conclusion :=
  Reader.restores_choice (by cases conclusion <;> rfl)

theorem ReplanBudget.restores (budget : ReplanBudget) :
    ReplanBudget.read.Restores (room + 1) budget.toJson budget := by
  refine Record.restores_of_fills (by decide) ?_
  exact .cons (Reader.restores_word32 budget.used) <|
    .cons (Reader.restores_word32 budget.limit) <|
    .nil _

namespace Replan

theorem FailedStep.restores (step : FailedStep) :
    FailedStep.record.read.Restores (room + 1) step.toJson step := by
  refine Record.restores_of_fills (by decide) ?_
  exact .cons (Reader.restores_text step.id) <|
    .cons (Reader.restores_text step.tool) <|
    .cons (Reader.restores_text step.error) <|
    .nil _

/-- Writes the scope of a brief. -/
def Brief.scopeToJson (scope : List String × List FailedStep) : Json :=
  .object
    [ ("successful_steps", Writer.texts scope.1),
      ("failed_steps", Writer.list FailedStep.toJson scope.2) ]

theorem Brief.restores_scope (scope : List String × List FailedStep) :
    scopeRecord.read.Restores (room + 3) (scopeToJson scope) scope := by
  refine Record.restores_of_fills (by decide) ?_
  exact .cons (Reader.restores_texts scope.1) <|
    .cons (Reader.restores_list fun step _ => step.restores) <|
    .nil _

end Replan

namespace Settings

theorem isStable_read : read.IsStable (room + 1) toJson := by
  intro origin document settings shallow accepted
  have keeps : record.Keeps origin room fun settings => settings.path = none := by
    simp only [Record.Keeps, record, List.forall_mem_cons]
    exact ⟨Field.keeps_of_store fun _ _ same => same, Field.keeps_of_store fun _ _ same => same,
      Field.keeps_of_store fun _ _ same => same, Field.keeps_of_store fun _ _ same => same,
      Field.keeps_of_store fun _ _ same => same, Field.keeps_of_store fun _ _ same => same,
      Field.keeps_of_store fun _ _ same => same, by simp⟩
  have noPath : settings.path = none := keeps.read rfl shallow accepted
  obtain ⟨path, enableRewoo, maxRetries, maxReplansPerPlan, maxParallelSteps, stepTimeoutSecs,
    retryBackoffMs, logLevel⟩ := settings
  cases noPath
  refine Record.restores_of_fills (by decide) ?_
  exact .cons (Reader.restores_flag enableRewoo) <|
    .cons (Reader.restores_word32 maxRetries) <|
    .cons (Reader.restores_word32 maxReplansPerPlan) <|
    .cons (Reader.restores_size maxParallelSteps) <|
    .cons (Reader.restores_word64 stepTimeoutSecs) <|
    .cons (Reader.restores_word64 retryBackoffMs) <|
    .cons (Reader.restores_text logLevel) <|
    .nil _

end Settings

end PlanRunner
