import PlanRunner.Proofs.Run.Permanence
import PlanRunner.Proofs.Template.Locality

/-!
# Calls that can be checked afterwards

A result that a step has refers to is never changed again once it is there, so that arguments that
missed nothing when they were resolved are resolved in the same way at the end of the run. Every
call of a tool can therefore be checked against the plan that the run has left. A step whose
arguments missed something has called nothing, and says what was missing.
-/

namespace PlanRunner

open Progress

variable {settings : Settings} {environment : Environment} {plan before after : Plan}
  {progress : Progress} {step : Step} {turn : Turn} {input id : String} {batch : Batch}
  {later : List Batch}

/-! ## Results that stay -/

/-- What a reference starts from is there afterwards, if it was there before. -/
theorem Plan.Persists.root? (persists : before.Persists after)
    (distinct : Step.Distinct before.steps) {value : Json}
    (found : Reference.root? before.steps input id = some value) :
    Reference.root? after.steps input id = some value := by
  have distinctAfter := persists.distinct distinct
  unfold Reference.root? at found ⊢
  cases here : before.steps.find? (·.id == id) with
  | none =>
      have nowhere : after.steps.find? (·.id == id) = none := by
        rw [List.find?_eq_none] at here ⊢
        intro step member named
        have inIds : step.id ∈ before.steps.map (·.id) := persists.ids ▸ List.mem_map_of_mem member
        obtain ⟨old, oldMember, same⟩ := List.mem_map.1 inIds
        exact here old oldMember (same ▸ named)
      simpa only [here, nowhere] using found
  | some step =>
      simp only [here] at found
      split at found
      · rename_i succeeded
        rw [Step.find?_first distinct, Step.find?_eq_some_iff distinct] at here
        have isOver : step.status.isTerminal = true := by
          rw [succeeded]
          rfl
        have there : after.steps.find? (·.id == id) = some step := by
          rw [Step.find?_first distinctAfter, Step.find?_eq_some_iff distinctAfter]
          exact ⟨persists.kept step here.1 isOver, here.2⟩
        simpa only [there, succeeded, if_true] using found
      · contradiction

theorem Plan.Persists.extends_value (persists : before.Persists after)
    (distinct : Step.Distinct before.steps) :
    Template.Extends (Reference.value? before.steps input)
      (Reference.value? after.steps input) := by
  intro reference value found
  obtain ⟨root, hasRoot, followed⟩ := Option.bind_eq_some_iff.1 found
  exact Option.bind_eq_some_iff.2 ⟨root, persists.root? distinct hasRoot, followed⟩

/-- A batch that starts changes nothing that is over. -/
theorem Plan.Persists.launched (settings : Settings) (persists : progress.plan.Persists after) :
    (progress.launched settings).Persists after := by
  refine ⟨persists.design.trans ?_, fun step member isOver => ?_, persists.frame⟩
  · simp only [Progress.launched, Plan.withStatus, List.map_map]
    refine List.map_congr_left fun step _ => ?_
    rw [Function.comp_apply]
    split <;> rfl
  · obtain ⟨old, oldMember, rfl⟩ := List.mem_map.1 member
    change (old.started (progress.chosen settings)).status.isTerminal = true at isOver
    change old.started (progress.chosen settings) ∈ after.steps
    by_cases chosen : old.id ∈ progress.chosen settings
    · rw [Step.started_of_mem chosen] at isOver
      contradiction
    · rw [Step.started_of_not_mem chosen] at isOver ⊢
      exact persists.kept old oldMember isOver

/-! ## Turns -/

/-- An action follows from the design of its step and from the arguments. -/
theorem Action.ofStep_congr {step other : Step} (same : step.design = other.design)
    (arguments : Json) : ofStep step arguments = ofStep other arguments := by
  change ofStep step.design arguments = ofStep other.design arguments
  rw [same]

/-- A step that failed for what was missing says so. -/
theorem Turn.marked_of_missing {labels : List String} {retryCount attempts : UInt32}
    (ending : turn.ending = .settled (.missingInputs labels) retryCount attempts) :
    turn.marked.status = .failed ∧
      turn.marked.error = some ("missing inputs: " ++ String.intercalate ", " labels) := by
  rw [Turn.marked, ending]
  exact ⟨rfl, rfl⟩

/-- What a turn may be checked for, given the steps that it saw and the steps at the end. -/
structure Turn.Audited (input : String) (seen final : List Step) (step : Step) (turn : Turn) :
    Prop where
  named : turn.step.id = step.id
  /-- Every call got the arguments as they are resolved at the end, when nothing is missing. -/
  calls : ∀ call ∈ turn.calls,
    (Template.resolve final input step.arguments).missing = [] ∧
      call.action = .ofStep step (Template.resolve final input step.arguments).arguments
  /-- A tool was called exactly if nothing was missing at the time. -/
  called : turn.calls ≠ [] ↔ (Template.resolve seen input step.arguments).missing = []
  /-- A step for which something was missing has failed, and says what it was. -/
  missing : (Template.resolve seen input step.arguments).missing ≠ [] →
    ∃ failed ∈ final, failed.id = step.id ∧ failed.status = .failed ∧
      failed.error = some ("missing inputs: " ++
        String.intercalate ", " (Template.resolve seen input step.arguments).missing)

/-- A turn stands the audit if later steps keep what it saw, and its own outcome. -/
theorem Turn.audited_take {gateways : Gateways} {seen final : List Step} {started : Step}
    (templates : gateways.UsesTemplates input) (design : started.design = step.design)
    (grows : Template.Extends (Reference.value? seen input) (Reference.value? final input))
    (kept : (take settings gateways seen started).marked ∈ final) :
    (take settings gateways seen started).Audited input seen final step := by
  have named : started.id = step.id := Step.id_eq_of_design design
  have resolves := templates started seen
  rw [Step.arguments_eq_of_design design] at resolves
  by_cases complete : (Template.resolve seen input step.arguments).missing = []
  · obtain ⟨called, actions⟩ := take_of_complete resolves settings complete
    constructor
    case named => rw [step_take, named]
    case calls =>
      intro call member
      rw [Template.resolve_of_extends complete grows]
      exact ⟨complete, (actions call member).trans (Action.ofStep_congr design _)⟩
    case called => exact iff_of_true called complete
    case missing => exact fun missing => absurd complete missing
  · obtain ⟨silent, ending⟩ := take_of_missing resolves settings complete
    obtain ⟨failed, error⟩ := marked_of_missing ending
    constructor
    case named => rw [step_take, named]
    case calls =>
      intro call member
      rw [silent] at member
      contradiction
    case called => exact iff_of_false (fun called => called silent) complete
    case missing =>
      intro _
      exact ⟨_, kept, by rw [id_marked, step_take, named], failed, error⟩

/-! ## Runs -/

/--
Every call of a run was made with the arguments of its step as they are resolved at the end of the
run, where nothing is missing in them. A tool was called exactly if nothing was missing when its
batch started. A step for which something was missing has failed, and says what it was.
-/
theorem arguments_hold_at_end (templates : environment.UsesTemplates input) {earlier : List Batch}
    (split : (plan.run settings environment).batches = earlier ++ batch :: later)
    (member : turn ∈ batch.turns) :
    ∃ step ∈ plan.steps,
      turn.Audited input (plan.during environment earlier batch []).steps
        (plan.run settings environment).plan.steps step := by
  obtain ⟨valid, middle, reaches, rfl, rfl⟩ := Plan.exists_of_batches_run split
  have coherent := valid.coherent_start.of_reaches reaches
  have distinct := coherent.distinct
  obtain ⟨old, oldMember, chosen, rfl⟩ := (mem_nextBatch_iff distinct).1 member
  obtain ⟨step, stepMember, design⟩ :=
    Step.exists_of_design (coherent.design.trans (design_start plan)) oldMember
  refine ⟨step, stepMember, ?_⟩
  rw [Plan.during_nextBatch valid reaches]
  have persists := (Plan.persists_of_split valid reaches split).launched settings
  have started : Step.design { old with status := .running } = step.design := design.symm
  apply Turn.audited_take templates started
  · exact persists.extends_value (distinct_launched distinct)
  · refine Plan.marked_mem_run ?_ (Turn.settled_take (templates _ _))
    rw [Run.turns, split, List.flatMap_append, List.flatMap_cons]
    exact List.mem_append_right _ (List.mem_append_left _ member)

/-- A price that is asked for and paid, and a receipt that refers to what is no step. -/
def purchasePlan : Plan :=
  { Plan.blank with
    id := "purchase"
    steps :=
      [Step.new "quote" "shop" .null,
        (Step.new "order" "shop"
          (.string "\x7b\x7bquote.price\x7d\x7d for \x7b\x7binput\x7d\x7d")).dependingOn ["quote"],
        (Step.new "receipt" "print"
          (.string "\x7b\x7border\x7d\x7d and \x7b\x7btax.rate\x7d\x7d")).dependingOn ["order"]] }

/-- A world in which the price is twelve. -/
def purchaseWorld : Environment :=
  Rehearsal.environment
    { context := { input := "paper" }
      scripts := [("quote", [⟨10, .success (.object [("price", .string "12")])⟩])]
      cancelAt := none
      cuesResolver := false } "run" default

/-- What was ordered can be read off the plan at the end, and the receipt says what it lacked. -/
theorem arguments_hold_at_end_purchase :
    ∃ first second third order receipt,
      (purchasePlan.run {} purchaseWorld).batches = [first, second, third] ∧
      second.turns = [order] ∧ third.turns = [receipt] ∧
      order.calls.map (·.action.arguments) = [.string "12 for paper"] ∧
      (∃ step ∈ purchasePlan.steps,
        order.Audited "paper" (purchasePlan.during purchaseWorld [first] second []).steps
          (purchasePlan.run {} purchaseWorld).plan.steps step) ∧
      receipt.calls = [] ∧
      ∃ step ∈ purchasePlan.steps,
        receipt.Audited "paper" (purchasePlan.during purchaseWorld [first, second] third []).steps
          (purchasePlan.run {} purchaseWorld).plan.steps step := by
  have seen : (purchasePlan.run {} purchaseWorld).batches.map (fun batch =>
      batch.turns.map fun turn => turn.calls.map (·.action.arguments)) =
        [[[.null]], [[.string "12 for paper"]], [[]]] := by
    decide +kernel
  obtain ⟨first, rest, batches, -, seenRest⟩ := List.map_eq_cons_iff.1 seen
  obtain ⟨second, others, rfl, seenSecond, seenOthers⟩ := List.map_eq_cons_iff.1 seenRest
  obtain ⟨third, rfl, seenThird⟩ := List.map_eq_singleton_iff.1 seenOthers
  obtain ⟨order, secondTurns, ordered⟩ := List.map_eq_singleton_iff.1 seenSecond
  obtain ⟨receipt, thirdTurns, silent⟩ := List.map_eq_singleton_iff.1 seenThird
  have orderMember : order ∈ second.turns := secondTurns ▸ List.mem_cons_self
  have receiptMember : receipt ∈ third.turns := thirdTurns ▸ List.mem_cons_self
  have templates : purchaseWorld.UsesTemplates "paper" := fun _ _ => rfl
  have afterFirst : (purchasePlan.run {} purchaseWorld).batches = [first] ++ second :: [third] :=
    batches
  have afterSecond : (purchasePlan.run {} purchaseWorld).batches = [first, second] ++ third :: [] :=
    batches
  exact ⟨first, second, third, order, receipt, batches, secondTurns, thirdTurns, ordered,
    arguments_hold_at_end templates afterFirst orderMember, List.map_eq_nil_iff.1 silent,
    arguments_hold_at_end templates afterSecond receiptMember⟩

end PlanRunner
