import Mathlib.Data.List.Perm.Subperm
import Mathlib.Logic.Function.Iterate
import PlanRunner.Plan.Readiness
import PlanRunner.Proofs.Plan.Lookup

/-!
# Which steps may still run

A step settles if it is done, in flight, or pending behind steps that all settle. The passes over a
list of steps find just the pending steps that settle: what a pass adds settles, and a pass that
adds nothing has left none of them out. The other pending steps are the unreachable ones.
-/

namespace PlanRunner.Step

variable {steps : List Step} {step : Step} {id : String}

/-! ## Ready steps -/

theorem isReady_iff :
    isReady steps step = true ↔
      step.status = .pending ∧ ∀ id ∈ step.dependencies, ∃ dependency,
        find? steps id = some dependency ∧ dependency.satisfiesDependents = true := by
  simp only [isReady, Bool.and_eq_true, decide_eq_true_eq, List.all_eq_true, IdSet.mem_ids]
  refine and_congr_right fun _ => forall₂_congr fun id _ => ?_
  cases find? steps id <;> simp

/-- All that a ready step depends on is done. -/
theorem dependency_of_isReady (distinct : Distinct steps) (ready : isReady steps step = true)
    (depends : id ∈ step.dependencies) :
    ∃ dependency ∈ steps, dependency.id = id ∧ dependency.satisfiesDependents = true := by
  obtain ⟨dependency, found, satisfies⟩ := (isReady_iff.1 ready).2 id depends
  obtain ⟨member, named⟩ := (find?_eq_some_iff distinct).1 found
  exact ⟨dependency, member, named, satisfies⟩

theorem mem_ready_iff : id ∈ ready steps ↔ ∃ step ∈ steps, step.id = id ∧ isReady steps step := by
  simp only [ready, List.mem_map, List.mem_filter]
  constructor
  · rintro ⟨step, ⟨member, isReady⟩, rfl⟩
    exact ⟨step, member, rfl, isReady⟩
  · rintro ⟨step, member, rfl, isReady⟩
    exact ⟨step, ⟨member, isReady⟩, rfl⟩

theorem ready_eq_nil_iff : ready steps = [] ↔ ∀ step ∈ steps, ¬isReady steps step := by
  simp [ready, List.filter_eq_nil_iff]

theorem nodup_ready (distinct : Distinct steps) : (ready steps).Nodup :=
  distinct.sublist (List.filter_sublist.map _)

/-- A step that counts as done is not pending. -/
theorem not_pending_of_satisfiesDependents (satisfies : step.satisfiesDependents = true) :
    step.status ≠ .pending := by
  intro pending
  simp [satisfiesDependents, pending] at satisfies

/-- A step counts as done if it succeeded, or if it is optional and failed or was skipped. -/
theorem satisfiesDependents_iff :
    step.satisfiesDependents = true ↔ step.status = .succeeded ∨
      step.optional = true ∧ (step.status = .failed ∨ step.status = .skipped) := by
  unfold satisfiesDependents
  cases step.status <;> simp

/-! ## Steps that settle -/

/-- A step is done, in flight, or pending with dependencies that all settle. -/
inductive Settles (steps : List Step) : String → Prop where
  | done {id : String} {step : Step} (found : find? steps id = some step)
      (satisfies : step.satisfiesDependents = true) : Settles steps id
  | inFlight {id : String} {step : Step} (found : find? steps id = some step)
      (running : step.status = .running) : Settles steps id
  | waiting {id : String} {step : Step} (found : find? steps id = some step)
      (pending : step.status = .pending)
      (dependencies : ∀ dependency ∈ step.dependencies, Settles steps dependency) :
      Settles steps id

/-- Every identifier of a list is that of a pending step whose dependencies all settle. -/
def Sound (steps : List Step) (live : List String) : Prop :=
  ∀ id ∈ live, ∃ step ∈ steps, step.id = id ∧ step.status = .pending ∧
    ∀ dependency ∈ step.dependencies, Settles steps dependency

/-- A list has the identifiers of all pending steps that settle if those in the list do. -/
def Closed (steps : List Step) (live : List String) : Prop :=
  ∀ step ∈ steps, step.status = .pending →
    (∀ dependency ∈ step.dependencies, mayFinish steps live dependency = true) → step.id ∈ live

theorem settles_of_mem (distinct : Distinct steps) {live : List String}
    (sound : Sound steps live) (member : id ∈ live) : Settles steps id := by
  obtain ⟨step, stepMember, rfl, pending, dependencies⟩ := sound id member
  exact .waiting ((find?_eq_some_iff distinct).2 ⟨stepMember, rfl⟩) pending dependencies

theorem settles_of_mayFinish (distinct : Distinct steps) {live : List String}
    (sound : Sound steps live) (finishes : mayFinish steps live id = true) : Settles steps id := by
  unfold mayFinish at finishes
  cases found : find? steps id with
  | none => simp [found] at finishes
  | some step =>
      simp only [found, Bool.or_eq_true, Bool.and_eq_true, decide_eq_true_eq] at finishes
      rcases finishes with (satisfies | running) | ⟨-, member⟩
      · exact .done found satisfies
      · exact .inFlight found running
      · exact settles_of_mem distinct sound (List.contains_iff_mem.1 member)

/-- What is closed has all pending steps that settle. -/
theorem mayFinish_of_settles {live : List String} (closed : Closed steps live)
    (settles : Settles steps id) : mayFinish steps live id = true := by
  induction settles with
  | done found satisfies => simp [mayFinish, found, satisfies]
  | inFlight found running => simp [mayFinish, found, running]
  | @waiting id step found pending dependencies ih =>
      obtain ⟨member, rfl⟩ := mem_of_find?_eq_some found
      have isLive := closed step member pending ih
      simp [mayFinish, found, pending, isLive]

/-! ## Passes -/

/-- Whether a pass adds a step to those that are known to be live. -/
def Joins (steps : List Step) (live : List String) (step : Step) : Prop :=
  step.status = .pending ∧ step.id ∉ live ∧
    ∀ dependency ∈ step.dependencies, mayFinish steps live dependency = true

variable {live : List String}

theorem enlivenStep_of_joins (joins : Joins steps live step) :
    enlivenStep steps live step = step.id :: live := by
  obtain ⟨pending, fresh, dependencies⟩ := joins
  refine if_pos ?_
  simpa [pending, fresh] using dependencies

theorem enlivenStep_of_not_joins (stays : ¬Joins steps live step) :
    enlivenStep steps live step = live := by
  refine if_neg fun test => stays ?_
  simpa [Joins, and_assoc] using test

/-- What a pass adds settles if what it starts from does. -/
theorem sound_foldl (distinct : Distinct steps) {rest : List Step} (part : rest ⊆ steps)
    (sound : Sound steps live) : Sound steps (rest.foldl (enlivenStep steps) live) := by
  induction rest generalizing live with
  | nil => exact sound
  | cons first rest ih =>
      refine ih (fun _ member => part (List.mem_cons_of_mem _ member)) ?_
      by_cases joins : Joins steps live first
      · rw [enlivenStep_of_joins joins]
        intro id member
        rcases List.mem_cons.1 member with rfl | known
        · refine ⟨first, part List.mem_cons_self, rfl, joins.1, fun dependency depends => ?_⟩
          exact settles_of_mayFinish distinct sound (joins.2.2 dependency depends)
        · exact sound id known
      · rw [enlivenStep_of_not_joins joins]
        exact sound

theorem nodup_foldl {rest : List Step} (nodup : live.Nodup) :
    (rest.foldl (enlivenStep steps) live).Nodup := by
  induction rest generalizing live with
  | nil => exact nodup
  | cons first rest ih =>
      refine ih ?_
      by_cases joins : Joins steps live first
      · rw [enlivenStep_of_joins joins]
        exact List.nodup_cons.2 ⟨joins.2.1, nodup⟩
      · rw [enlivenStep_of_not_joins joins]
        exact nodup

theorem length_le_foldl (steps rest : List Step) (live : List String) :
    live.length ≤ (rest.foldl (enlivenStep steps) live).length := by
  induction rest generalizing live with
  | nil => exact Nat.le_refl _
  | cons first rest ih =>
      refine Nat.le_trans ?_ (ih _)
      by_cases joins : Joins steps live first
      · simp [enlivenStep_of_joins joins]
      · simp [enlivenStep_of_not_joins joins]

/-- A pass that adds nothing has met no step that it could have added. -/
theorem not_joins_of_length_eq {rest : List Step}
    (same : (rest.foldl (enlivenStep steps) live).length = live.length) :
    ∀ step ∈ rest, ¬Joins steps live step := by
  induction rest with
  | nil => simp
  | cons first rest ih =>
      have stays : ¬Joins steps live first := by
        intro joins
        rw [List.foldl_cons, enlivenStep_of_joins joins] at same
        have longer := length_le_foldl steps rest (first.id :: live)
        rw [same, List.length_cons] at longer
        omega
      rw [List.foldl_cons, enlivenStep_of_not_joins stays] at same
      simpa [stays] using ih same

theorem closed_of_length_eq (same : (enliven steps live).length = live.length) :
    Closed steps live := by
  intro step member pending dependencies
  by_contra fresh
  exact not_joins_of_length_eq same step member ⟨pending, fresh, dependencies⟩

theorem foldl_of_forall_not_joins {rest : List Step}
    (stays : ∀ step ∈ rest, ¬Joins steps live step) :
    rest.foldl (enlivenStep steps) live = live := by
  induction rest with
  | nil => rfl
  | cons first rest ih =>
      rw [List.foldl_cons, enlivenStep_of_not_joins (stays first List.mem_cons_self)]
      exact ih fun step member => stays step (List.mem_cons_of_mem _ member)

/-- A pass that adds nothing leaves the list as it is. -/
theorem enliven_of_length_eq (same : (enliven steps live).length = live.length) :
    enliven steps live = live :=
  foldl_of_forall_not_joins (not_joins_of_length_eq same)

/-- A list without repetitions that has only identifiers of steps is no longer than the steps. -/
theorem length_le_of_sound (nodup : live.Nodup) (sound : Sound steps live) :
    live.length ≤ steps.length := by
  have subset : live ⊆ steps.map (·.id) := by
    intro id member
    obtain ⟨step, stepMember, rfl, -⟩ := sound id member
    exact List.mem_map_of_mem stepMember
  simpa using (nodup.subperm subset).length_le

theorem sound_enlivened (distinct : Distinct steps) (passes : Nat) (sound : Sound steps live) :
    Sound steps (enlivened steps passes live) := by
  induction passes generalizing live with
  | zero => exact sound
  | succ passes ih =>
      simp only [enlivened]
      split
      · exact sound
      · exact ih (sound_foldl distinct (List.Subset.refl _) sound)

/--
Enough passes come to an end: after so many of them that every one could add a step, the next one
adds nothing.
-/
theorem enlivened_saturates (distinct : Distinct steps) {passes : Nat} (nodup : live.Nodup)
    (sound : Sound steps live) (enough : steps.length < live.length + passes) :
    ∃ count, live.length + count ≤ steps.length ∧
      enlivened steps passes live = (enliven steps)^[count] live ∧
        enliven steps (enlivened steps passes live) = enlivened steps passes live := by
  induction passes generalizing live with
  | zero =>
      have short := length_le_of_sound nodup sound
      omega
  | succ passes ih =>
      simp only [enlivened]
      split
      · rename_i same
        exact ⟨0, length_le_of_sound nodup sound, rfl, enliven_of_length_eq same⟩
      · rename_i longer
        have grows : live.length ≤ (enliven steps live).length := length_le_foldl steps steps live
        have nodupGrown : (enliven steps live).Nodup := nodup_foldl nodup
        have soundGrown : Sound steps (enliven steps live) :=
          sound_foldl distinct (List.Subset.refl _) sound
        obtain ⟨count, few, iterated, closed⟩ := ih nodupGrown soundGrown (by omega)
        exact ⟨count + 1, by omega, iterated, closed⟩

/-- Enough passes leave no pending step out that could be added. -/
theorem closed_enlivened (distinct : Distinct steps) {passes : Nat} (nodup : live.Nodup)
    (sound : Sound steps live) (enough : steps.length < live.length + passes) :
    Closed steps (enlivened steps passes live) := by
  obtain ⟨-, -, -, saturated⟩ := enlivened_saturates distinct nodup sound enough
  exact closed_of_length_eq (congrArg List.length saturated)

/-! ## Live and unreachable steps -/

/-- The passes over a list of steps find just the pending steps that settle. -/
theorem mem_live_iff (distinct : Distinct steps) (member : step ∈ steps)
    (pending : step.status = .pending) : step.id ∈ Step.live steps ↔ Settles steps step.id := by
  have start : Sound steps [] := by simp [Sound]
  constructor
  · exact settles_of_mem distinct (sound_enlivened distinct _ start)
  · intro settles
    have closed : Closed steps (Step.live steps) :=
      closed_enlivened distinct List.nodup_nil start (by simp)
    have finishes := mayFinish_of_settles closed settles
    have found := (find?_eq_some_iff distinct).2 ⟨member, rfl⟩
    simpa [mayFinish, found, pending, satisfiesDependents] using finishes

/-- The unreachable steps are the pending ones that do not settle. -/
theorem mem_unreachable_iff (distinct : Distinct steps) :
    id ∈ unreachable steps ↔
      ∃ step ∈ steps, step.id = id ∧ step.status = .pending ∧ ¬Settles steps step.id := by
  simp only [unreachable, List.mem_map, List.mem_filter, Bool.and_eq_true, decide_eq_true_eq,
    Bool.not_eq_true', List.contains_eq_mem, decide_eq_false_iff_not]
  constructor
  · rintro ⟨step, ⟨member, pending, dead⟩, rfl⟩
    exact ⟨step, member, rfl, pending, mt (mem_live_iff distinct member pending).2 dead⟩
  · rintro ⟨step, member, rfl, pending, dead⟩
    exact ⟨step, ⟨member, pending, mt (mem_live_iff distinct member pending).1 dead⟩, rfl⟩

theorem id_mem_unreachable_iff (distinct : Distinct steps) (member : step ∈ steps) :
    step.id ∈ unreachable steps ↔ step.status = .pending ∧ ¬Settles steps step.id := by
  rw [mem_unreachable_iff distinct]
  constructor
  · rintro ⟨other, otherMember, same, stuck⟩
    rwa [distinct.eq_of_id_eq otherMember member same] at stuck
  · exact fun stuck => ⟨step, member, rfl, stuck⟩

/-- A pending step settles if its dependencies do. -/
theorem settles_iff_of_pending (distinct : Distinct steps) (member : step ∈ steps)
    (pending : step.status = .pending) :
    Settles steps step.id ↔ ∀ dependency ∈ step.dependencies, Settles steps dependency := by
  have found := (find?_eq_some_iff distinct).2 ⟨member, rfl⟩
  constructor
  · intro settles
    cases settles with
    | done same satisfies =>
        cases Option.some.inj (found.symm.trans same)
        exact absurd pending (not_pending_of_satisfiesDependents satisfies)
    | inFlight same running =>
        cases Option.some.inj (found.symm.trans same)
        rw [pending] at running
        contradiction
    | waiting same _ dependencies =>
        cases Option.some.inj (found.symm.trans same)
        exact dependencies
  · exact .waiting found pending

/-- A ready step settles. -/
theorem settles_of_isReady (distinct : Distinct steps) (member : step ∈ steps)
    (ready : isReady steps step = true) : Settles steps step.id := by
  have found := (find?_eq_some_iff distinct).2 ⟨member, rfl⟩
  obtain ⟨pending, done⟩ := isReady_iff.1 ready
  refine .waiting found pending fun id depends => ?_
  obtain ⟨dependency, dependencyFound, satisfies⟩ := done id depends
  exact .done dependencyFound satisfies

/-- What settles among some steps settles among others, if each step is found there or settles. -/
theorem Settles.carry {others : List Step}
    (carried : ∀ {id step}, find? steps id = some step →
      find? others id = some step ∨ Settles others id)
    (settles : Settles steps id) : Settles others id := by
  induction settles with
  | done found satisfies =>
      rcases carried found with same | settled
      · exact .done same satisfies
      · exact settled
  | inFlight found running =>
      rcases carried found with same | settled
      · exact .inFlight same running
      · exact settled
  | waiting found pending dependencies ih =>
      rcases carried found with same | settled
      · exact .waiting same pending ih
      · exact settled

/-- Where no step is ready or in flight, only the steps that are done settle. -/
theorem satisfies_of_settles (idle : ∀ step ∈ steps, step.status ≠ .running)
    (drained : ready steps = []) (settles : Settles steps id) :
    ∃ step, find? steps id = some step ∧ step.satisfiesDependents = true := by
  induction settles with
  | @done id step found satisfies => exact ⟨step, found, satisfies⟩
  | @inFlight id step found running =>
      exact absurd running (idle step (mem_of_find?_eq_some found).1)
  | @waiting id step found pending dependencies ih =>
      have isReady := isReady_iff.2 ⟨pending, ih⟩
      exact absurd isReady (ready_eq_nil_iff.1 drained step (mem_of_find?_eq_some found).1)

/-- Where no step is ready or in flight, every pending step is unreachable. -/
theorem mem_unreachable_iff_of_drained (distinct : Distinct steps)
    (idle : ∀ step ∈ steps, step.status ≠ .running) (drained : ready steps = []) :
    id ∈ unreachable steps ↔ ∃ step ∈ steps, step.id = id ∧ step.status = .pending := by
  rw [mem_unreachable_iff distinct]
  constructor
  · rintro ⟨step, member, same, pending, -⟩
    exact ⟨step, member, same, pending⟩
  · rintro ⟨step, member, same, pending⟩
    refine ⟨step, member, same, pending, fun settles => ?_⟩
    obtain ⟨other, found, satisfies⟩ := satisfies_of_settles idle drained settles
    rw [(find?_eq_some_iff distinct).2 ⟨member, rfl⟩, Option.some.injEq] at found
    subst found
    exact not_pending_of_satisfiesDependents satisfies pending

end PlanRunner.Step
