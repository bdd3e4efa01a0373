import Mathlib.Algebra.Order.BigOperators.Group.List
import Mathlib.Algebra.Order.Ring.Nat
import Mathlib.Logic.Relation
import PlanRunner.Proofs.Plan.Readiness
import PlanRunner.Proofs.Run.Turns

/-!
# What a scheduler can still bring about

A scheduler starts ready steps and ends steps that are in flight. A step settles exactly if some
moves of a scheduler make it ready: as long as it waits, something else can be started or ended
well, and there is only so much to start and to end; and no move makes a step settle that did not
settle before. So the unreachable steps are the pending ones that no scheduler can bring to
readiness.
-/

namespace PlanRunner.Step

open Relation

variable {steps later others : List Step} {step fresh : Step} {id : String}

/-! ## Replacing a step -/

/-- A list of steps in which a step takes the place of the one with its identifier. -/
def put (fresh : Step) (steps : List Step) : List Step :=
  steps.map fun old => if old.id = fresh.id then fresh else old

theorem id_put (fresh old : Step) : (if old.id = fresh.id then fresh else old).id = old.id := by
  split
  · rename_i same
    exact same.symm
  · rfl

theorem distinct_put : Distinct (put fresh steps) ↔ Distinct steps :=
  distinct_map (id_put fresh)

/-- The new step is found under its identifier, and all other steps are found as before. -/
theorem find?_put (known : ∃ old ∈ steps, old.id = fresh.id) :
    find? (put fresh steps) id = if id = fresh.id then some fresh else find? steps id := by
  rw [put, find?_map (id_put fresh)]
  cases found : find? steps id with
  | none =>
      have absent := find?_eq_none_iff.1 found
      rw [if_neg, Option.map_none]
      rintro rfl
      obtain ⟨old, member, same⟩ := known
      exact absent old member same
  | some old =>
      obtain ⟨-, rfl⟩ := mem_of_find?_eq_some found
      by_cases same : old.id = fresh.id
      · rw [Option.map_some, if_pos same, if_pos same]
      · rw [Option.map_some, if_neg same, if_neg same]

theorem mem_put (member : step ∈ steps) (other : step.id ≠ fresh.id) : step ∈ put fresh steps :=
  List.mem_map.2 ⟨step, member, if_neg other⟩

/-! ## Moves -/

/-- A move of a scheduler: it starts a ready step, or a step in flight gets its answer. -/
inductive Move (steps : List Step) : List Step → Prop where
  | start {step : Step} (member : step ∈ steps) (ready : isReady steps step = true) :
      Move steps (put { step with status := .running } steps)
  | finish {step : Step} (member : step ∈ steps) (running : step.status = .running)
      (answer : Answer) (retryCount attempts : UInt32) :
      Move steps (put (Turn.mark (.settled answer retryCount attempts) step) steps)

theorem Move.distinct (move : Move steps later) (distinct : Distinct steps) : Distinct later := by
  cases move with
  | start member ready => exact distinct_put.2 distinct
  | finish member running answer retryCount attempts => exact distinct_put.2 distinct

theorem distinct_of_moves (distinct : Distinct steps) (moves : ReflTransGen Move steps later) :
    Distinct later := by
  induction moves with
  | refl => exact distinct
  | tail _ move ih => exact move.distinct ih

/-! ## What settles after a move -/

/-- A step that settles keeps everything settled if it is put in place of another. -/
theorem Settles.put (known : ∃ old ∈ steps, old.id = fresh.id)
    (active : fresh.status = .running ∨ fresh.satisfiesDependents = true)
    (settles : Settles steps id) : Settles (put fresh steps) id := by
  refine settles.carry fun {id step} found => ?_
  have foundNew : ∀ {id}, id = fresh.id → find? (Step.put fresh steps) id = some fresh :=
    fun same => (find?_put known).trans (if_pos same)
  by_cases same : id = fresh.id
  · right
    rcases active with running | satisfies
    · exact .inFlight (foundNew same) running
    · exact .done (foundNew same) satisfies
  · left
    rwa [find?_put known, if_neg same]

/-- A step that is put in place of one that settles makes nothing settle that did not before. -/
theorem settles_of_put (fresh : Step) (known : ∃ old ∈ steps, old.id = fresh.id)
    (settled : Settles steps fresh.id) (settles : Settles (put fresh steps) id) :
    Settles steps id := by
  refine settles.carry fun {id step} found => ?_
  rw [find?_put known] at found
  split at found
  · rename_i same
    exact .inr (same ▸ settled)
  · exact .inl found

/-- No move makes a step settle that did not settle before. -/
theorem settles_of_move (distinct : Distinct steps) (move : Move steps later)
    (settles : Settles later id) : Settles steps id := by
  cases move with
  | @start step member ready =>
      have settled : Settles steps step.id := settles_of_isReady distinct member ready
      exact settles_of_put { step with status := .running } ⟨step, member, rfl⟩ settled settles
  | @finish step member running answer retryCount attempts =>
      refine settles_of_put _ ⟨step, member, (Turn.id_mark _ _).symm⟩ ?_ settles
      rw [Turn.id_mark]
      exact .inFlight ((find?_eq_some_iff distinct).2 ⟨member, rfl⟩) running

/-- No moves make a step settle that did not settle before. -/
theorem settles_of_moves (distinct : Distinct steps) (moves : ReflTransGen Move steps later)
    (settles : Settles later id) : Settles steps id := by
  induction moves with
  | refl => exact settles
  | tail moves move ih =>
      exact ih (settles_of_move (distinct_of_moves distinct moves) move settles)

/-! ## Making a step ready -/

/-- How many moves a step takes from now on, at most. -/
def effort (step : Step) : Nat :=
  match step.status with
  | .pending => 2
  | .running => 1
  | .succeeded | .failed | .skipped => 0

/-- A move leaves less to do. -/
theorem sum_effort_put_lt (distinct : Distinct steps) (member : step ∈ steps)
    (same : step.id = fresh.id) (less : fresh.effort < step.effort) :
    ((put fresh steps).map effort).sum < (steps.map effort).sum := by
  rw [put, List.map_map]
  refine List.sum_lt_sum _ _ (fun old oldMember => ?_) ⟨step, member, ?_⟩
  · by_cases isNew : old.id = fresh.id
    · obtain rfl := distinct.eq_of_id_eq oldMember member (isNew.trans same.symm)
      simpa [isNew] using less.le
    · simp [isNew]
  · simpa [same] using less

/--
While a pending step that settles is not ready, something else can be started or ended well: after
that it still waits and settles, and less is left to do.
-/
theorem exists_move (distinct : Distinct steps) (member : step ∈ steps)
    (pending : step.status = .pending) (settles : Settles steps step.id)
    (waits : ¬isReady steps step = true) :
    ∃ later, Move steps later ∧ step ∈ later ∧ Settles later step.id ∧
      (later.map effort).sum < (steps.map effort).sum := by
  -- Where nothing is in flight there is something ready to start, or the step would be done.
  by_cases idle : ∀ other ∈ steps, other.status ≠ .running
  · have notDrained : ready steps ≠ [] := by
      intro drained
      obtain ⟨same, found, satisfies⟩ := satisfies_of_settles idle drained settles
      obtain rfl := Option.some.inj
        (found.symm.trans ((find?_eq_some_iff distinct).2 ⟨member, rfl⟩))
      exact not_pending_of_satisfiesDependents satisfies pending
    obtain ⟨id, isReady⟩ := List.exists_mem_of_ne_nil _ notDrained
    obtain ⟨other, otherMember, rfl, ready⟩ := mem_ready_iff.1 isReady
    have otherPending := (isReady_iff.1 ready).1
    have apart : step.id ≠ other.id := by
      intro same
      obtain rfl := distinct.eq_of_id_eq member otherMember same
      exact waits ready
    refine ⟨_, .start otherMember ready, mem_put member apart, ?_, ?_⟩
    · exact settles.put ⟨other, otherMember, rfl⟩ (.inl rfl)
    · refine sum_effort_put_lt distinct otherMember rfl ?_
      simp [effort, otherPending]
  · push Not at idle
    obtain ⟨other, otherMember, running⟩ := idle
    have apart : step.id ≠ other.id := by
      intro same
      obtain rfl := distinct.eq_of_id_eq member otherMember same
      simp [pending] at running
    refine ⟨_, .finish otherMember running (.success .null) 0 1, mem_put member apart, ?_, ?_⟩
    · exact settles.put ⟨other, otherMember, rfl⟩ (.inr rfl)
    · refine sum_effort_put_lt distinct otherMember rfl ?_
      simp [effort, running, Turn.mark]

/-- Moves make a pending step ready if it settles. -/
theorem exists_moves_of_settles (distinct : Distinct steps) (member : step ∈ steps)
    (pending : step.status = .pending) (settles : Settles steps step.id) :
    ∃ later, ReflTransGen Move steps later ∧ step.id ∈ ready later := by
  induction bound : (steps.map effort).sum using Nat.strong_induction_on generalizing steps with
  | _ bound ih =>
      by_cases ready : isReady steps step = true
      · exact ⟨steps, .refl, mem_ready_iff.2 ⟨step, member, rfl, ready⟩⟩
      · obtain ⟨next, move, nextMember, nextSettles, less⟩ :=
          exists_move distinct member pending settles ready
        obtain ⟨later, moves, isReady⟩ :=
          ih _ (bound ▸ less) (move.distinct distinct) nextMember nextSettles rfl
        exact ⟨later, .head move moves, isReady⟩

/-- A pending step settles exactly if some moves make it ready. -/
theorem settles_iff_exists_moves (distinct : Distinct steps) (member : step ∈ steps)
    (pending : step.status = .pending) :
    Settles steps step.id ↔ ∃ later, ReflTransGen Move steps later ∧ step.id ∈ ready later := by
  constructor
  · exact exists_moves_of_settles distinct member pending
  · rintro ⟨later, moves, isReady⟩
    obtain ⟨other, otherMember, same, ready⟩ := mem_ready_iff.1 isReady
    rw [← same]
    refine settles_of_moves distinct moves ?_
    exact settles_of_isReady (distinct_of_moves distinct moves) otherMember ready

/-! ## The order of the steps -/

theorem Settles.of_perm (distinct : Distinct steps) (permuted : steps.Perm others)
    (settles : Settles steps id) : Settles others id := by
  refine settles.carry fun {id step} found => .inl ?_
  rwa [← find?_perm distinct permuted]

theorem nodup_unreachable (distinct : Distinct steps) : (unreachable steps).Nodup :=
  distinct.sublist (List.filter_sublist.map _)

/-- Which steps are unreachable does not depend on the order of the steps. -/
theorem unreachable_perm (distinct : Distinct steps) (permuted : steps.Perm others) :
    (unreachable steps).Perm (unreachable others) := by
  have otherDistinct : Distinct others := (permuted.map _).nodup_iff.1 distinct
  refine (List.perm_ext_iff_of_nodup (nodup_unreachable distinct)
    (nodup_unreachable otherDistinct)).2 fun id => ?_
  rw [mem_unreachable_iff distinct, mem_unreachable_iff otherDistinct]
  refine exists_congr fun step => and_congr permuted.mem_iff ?_
  refine and_congr_right fun _ => and_congr_right fun _ => not_congr ?_
  exact ⟨Settles.of_perm distinct permuted, Settles.of_perm otherDistinct permuted.symm⟩

/--
The unreachable steps are just the pending ones that no moves of a scheduler make ready. The passes
that find them come to an end: after no more of them than there are steps, the next one adds
nothing. And the order of the steps does not matter.
-/
theorem mem_unreachable_iff_never_ready (distinct : Distinct steps) :
    (∀ step ∈ steps, step.status = .pending →
      (step.id ∉ unreachable steps ↔
        ∃ later, ReflTransGen Move steps later ∧ step.id ∈ ready later)) ∧
    (∃ passes ≤ steps.length, live steps = (enliven steps)^[passes] [] ∧
      enliven steps (live steps) = live steps) ∧
    ∀ others, steps.Perm others → (unreachable steps).Perm (unreachable others) := by
  refine ⟨?_, ?_, fun others permuted => unreachable_perm distinct permuted⟩
  · intro step member pending
    rw [← settles_iff_exists_moves distinct member pending, mem_unreachable_iff distinct]
    constructor
    · intro absent
      by_contra stuck
      exact absent ⟨step, member, rfl, pending, stuck⟩
    · rintro settles ⟨other, -, same, -, stuck⟩
      exact stuck (same ▸ settles)
  · have enough : steps.length < ([] : List String).length + (steps.length + 1) := by simp
    obtain ⟨passes, few, isLive, closed⟩ :=
      enlivened_saturates distinct List.nodup_nil (by simp [Sound]) enough
    exact ⟨passes, by simpa using few, isLive, closed⟩

/-- A failure, a skipped optional step, a step in flight, a circle and an unknown dependency. -/
def tangledSteps : List Step :=
  [{ Step.new "fetch" "download" .null with status := .failed },
    (Step.new "report" "print" .null).dependingOn ["merge", "fetch"],
    { Step.new "enrich" "lookup" .null with status := .skipped, optional := true },
    (Step.new "merge" "join" .null).dependingOn ["enrich", "scan"],
    { Step.new "scan" "read" .null with status := .running },
    (Step.new "notify" "mail" .null).dependingOn ["merge"],
    (Step.new "left" "wait" .null).dependingOn ["right"],
    (Step.new "right" "wait" .null).dependingOn ["left"],
    (Step.new "audit" "log" .null).dependingOn ["archive"]]

/-- Only the steps behind the one in flight can still be made ready. -/
theorem mem_unreachable_iff_never_ready_tangled :
    Distinct tangledSteps ∧
    unreachable tangledSteps = ["report", "left", "right", "audit"] ∧
    (∃ later, ReflTransGen Move tangledSteps later ∧ "notify" ∈ ready later) ∧
    (¬∃ later, ReflTransGen Move tangledSteps later ∧ "report" ∈ ready later) ∧
    (∃ passes ≤ 9, live tangledSteps = (enliven tangledSteps)^[passes] []) ∧
    (unreachable tangledSteps.reverse).Perm ["report", "left", "right", "audit"] := by
  have distinct : Distinct tangledSteps := by
    unfold Distinct
    decide
  have isUnreachable : unreachable tangledSteps = ["report", "left", "right", "audit"] := by
    decide +kernel
  obtain ⟨exact, ⟨passes, few, isLive, -⟩, unordered⟩ := mem_unreachable_iff_never_ready distinct
  have notify := exact tangledSteps[5] (List.getElem_mem _) rfl
  have report := exact tangledSteps[1] (List.getElem_mem _) rfl
  rw [isUnreachable] at notify report
  refine ⟨distinct, isUnreachable, notify.1 (by decide), ?_, ⟨passes, few, isLive⟩, ?_⟩
  · exact fun ready => absurd (report.2 ready) (by decide)
  · rw [← isUnreachable]
    exact (unordered _ (List.reverse_perm _).symm).symm

end PlanRunner.Step
