import Mathlib.Data.List.Nodup
import PlanRunner.Plan.Basic

/-!
# Finding steps

In a list of steps without repeated identifiers an identifier names one step, and it does not matter
from which end of the list the step is looked for. Changes that leave the identifiers alone leave
this property alone.
-/

namespace PlanRunner.Step

variable {steps : List Step} {step : Step} {id : String}

/-- No two steps of a list share an identifier. -/
def Distinct (steps : List Step) : Prop :=
  (steps.map (·.id)).Nodup

/-- Two steps of the list with one identifier are the same step. -/
theorem Distinct.eq_of_id_eq (distinct : Distinct steps) {first second : Step}
    (firstMember : first ∈ steps) (secondMember : second ∈ steps) (same : first.id = second.id) :
    first = second :=
  List.inj_on_of_nodup_map distinct firstMember secondMember same

/-- A change that keeps identifiers keeps them distinct. -/
theorem distinct_map {change : Step → Step} (keeps : ∀ step, (change step).id = step.id) :
    Distinct (steps.map change) ↔ Distinct steps := by
  have ids : (·.id) ∘ change = (·.id) := funext keeps
  simp only [Distinct, List.map_map, ids]

theorem find?_eq_none_iff : find? steps id = none ↔ ∀ step ∈ steps, step.id ≠ id := by
  simp [find?, List.find?_eq_none]

theorem mem_of_find?_eq_some (found : find? steps id = some step) :
    step ∈ steps ∧ step.id = id := by
  unfold find? at found
  have member := List.mem_of_find?_eq_some found
  have named := List.find?_some found
  exact ⟨List.mem_reverse.1 member, by simpa using named⟩

/-- What is found under an identifier is the step of that identifier. -/
theorem find?_eq_some_iff (distinct : Distinct steps) :
    find? steps id = some step ↔ step ∈ steps ∧ step.id = id := by
  constructor
  · exact mem_of_find?_eq_some
  · rintro ⟨member, rfl⟩
    cases found : find? steps step.id with
    | none => exact absurd rfl (find?_eq_none_iff.1 found step member)
    | some other =>
        obtain ⟨otherMember, same⟩ := mem_of_find?_eq_some found
        rw [distinct.eq_of_id_eq otherMember member same]

/-- The first step of an identifier is the last one as well. -/
theorem find?_first (distinct : Distinct steps) : steps.find? (·.id == id) = find? steps id := by
  cases found : steps.find? (·.id == id) with
  | none =>
      refine (find?_eq_none_iff.2 fun step member => ?_).symm
      simpa using List.find?_eq_none.1 found step member
  | some step =>
      refine ((find?_eq_some_iff distinct).2 ⟨List.mem_of_find?_eq_some found, ?_⟩).symm
      simpa using List.find?_some found

/-- A change that keeps identifiers changes what is found, but not whether anything is. -/
theorem find?_map {change : Step → Step} (keeps : ∀ step, (change step).id = step.id) :
    find? (steps.map change) id = (find? steps id).map change := by
  simp only [find?, ← List.map_reverse, List.find?_map, Function.comp_def, keeps]

/-- Looking for a step does not depend on the order of the steps. -/
theorem find?_perm {others : List Step} (distinct : Distinct steps) (permuted : steps.Perm others) :
    find? steps id = find? others id := by
  have otherDistinct : Distinct others := (permuted.map _).nodup_iff.1 distinct
  refine Option.ext fun step => ?_
  rw [find?_eq_some_iff distinct, find?_eq_some_iff otherDistinct, permuted.mem_iff]

end PlanRunner.Step
