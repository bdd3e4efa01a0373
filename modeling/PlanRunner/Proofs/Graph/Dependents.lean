import Mathlib.Data.List.Dedup
import PlanRunner.Graph.Dependents
import PlanRunner.Proofs.Graph.Paths

/-!
# What waits for a node

The nodes of a queue are followed one after the other, and what is reached for the first time is
queued. All that has been reached and is no longer queued leads to nothing that has not been
reached. There is room for every target of an edge, and none is queued twice. So the dependents of
a node are the other nodes that a path leads to from it.
-/

namespace PlanRunner.Graph

open Relation

variable {graph : Graph} {bound : Nat} {queue : List String} {reached : IdSet} {id origin : String}

/-- The targets of edges that have not been reached, each of them once. -/
def unreached (graph : Graph) (reached : IdSet) : List String :=
  (graph.edges.map (·.target)).dedup.filter (· ∉ reached)

theorem mem_unreached {other : String} (leads : graph.Leads id other) :
    other ∈ graph.unreached reached ↔ other ∉ reached := by
  have isTarget : other ∈ graph.edges.map (·.target) := List.mem_map_of_mem leads
  simp [unreached, List.mem_dedup, isTarget]

/-- The nodes that a node leads to and that have not been reached. -/
def fresh (graph : Graph) (reached : IdSet) (id : String) : List String :=
  (graph.successors id).filter (· ∉ reached)

theorem mem_fresh {other : String} :
    other ∈ graph.fresh reached id ↔ graph.Leads id other ∧ other ∉ reached := by
  simp [fresh, mem_successors]

/-- What is reached for the first time was unreached before and is not any more. -/
theorem length_fresh_add_le (graph : Graph) (reached : IdSet) (id : String) :
    (graph.fresh reached id).length +
      (graph.unreached (reached.insertAll (graph.fresh reached id))).length ≤
        (graph.unreached reached).length := by
  rw [← List.length_append]
  refine (List.Nodup.subperm (List.nodup_append.2 ⟨?first, ?rest, ?apart⟩) ?part).length_le
  case first => exact (graph.nodup_successors id).filter _
  case rest => exact (List.nodup_dedup _).filter _
  case apart =>
    rintro other isFresh _ isLeft rfl
    have notReached := of_decide_eq_true (List.mem_filter.1 isLeft).2
    exact notReached (IdSet.mem_insertAll.2 (.inr isFresh))
  case part =>
    intro other member
    rcases List.mem_append.1 member with isFresh | isLeft
    · obtain ⟨leads, notReached⟩ := mem_fresh.1 isFresh
      exact (mem_unreached leads).2 notReached
    · obtain ⟨isTarget, notReached⟩ := List.mem_filter.1 isLeft
      refine List.mem_filter.2 ⟨isTarget, decide_eq_true fun isReached => ?_⟩
      exact of_decide_eq_true notReached (IdSet.mem_insertAll.2 (.inl isReached))

theorem reachFrom_nil : graph.reachFrom bound [] reached = reached := by
  cases bound <;> rfl

theorem reachFrom_cons :
    graph.reachFrom (bound + 1) (id :: queue) reached =
      graph.reachFrom bound (queue ++ graph.fresh reached id)
        (reached.insertAll (graph.fresh reached id)) := rfl

/-- What is known while a queue is followed. -/
structure Spreading (graph : Graph) (bound : Nat) (queue : List String) (reached : IdSet) :
    Prop where
  room : queue.length + (graph.unreached reached).length ≤ bound
  /-- What is no longer queued leads to nothing that has not been reached. -/
  closed : ∀ id ∈ reached, id ∉ queue → ∀ next, graph.Leads id next → next ∈ reached

namespace Spreading

theorem start (graph : Graph) (root : String) :
    graph.Spreading (graph.edges.length + 1) [root] ∅ := by
  constructor
  case room =>
    have few := ((List.filter_sublist (p := (· ∉ (∅ : IdSet)))).trans
      (List.dedup_sublist (graph.edges.map (·.target)))).length_le
    rw [List.length_map] at few
    rw [List.length_singleton, unreached]
    omega
  case closed => exact fun id isReached => absurd isReached List.not_mem_nil

/-- A node is taken from the queue, and what it leads to is queued. -/
theorem next (spreading : graph.Spreading (bound + 1) (id :: queue) reached) :
    graph.Spreading bound (queue ++ graph.fresh reached id)
      (reached.insertAll (graph.fresh reached id)) := by
  constructor
  case room =>
    have room := spreading.room
    have fewer := graph.length_fresh_add_le reached id
    rw [List.length_cons] at room
    rw [List.length_append]
    omega
  case closed =>
    intro other isReached notQueued next leads
    rw [List.mem_append, not_or] at notQueued
    have before : other ∈ reached :=
      (IdSet.mem_insertAll.1 isReached).resolve_right notQueued.2
    rw [IdSet.mem_insertAll]
    by_cases same : other = id
    · subst same
      by_cases known : next ∈ reached
      · exact .inl known
      · exact .inr (mem_fresh.2 ⟨leads, known⟩)
    · refine .inl (spreading.closed other before ?_ next leads)
      simpa [same] using notQueued.1

theorem queue_eq_nil (spreading : graph.Spreading 0 queue reached) : queue = [] := by
  have room := spreading.room
  exact List.length_eq_zero_iff.1 (by omega)

/-- A path from what has been reached stays there, or it passes a node of the queue. -/
theorem covers (spreading : graph.Spreading bound queue reached) (isReached : origin ∈ reached)
    (steps : ReflTransGen graph.Leads origin id) :
    id ∈ reached ∨ ∃ other ∈ queue, TransGen graph.Leads other id := by
  induction steps using ReflTransGen.head_induction_on with
  | refl => exact .inl isReached
  | @head here next leads onwards ih =>
      by_cases queued : here ∈ queue
      · exact .inr ⟨here, queued, .head' leads onwards⟩
      · exact ih (spreading.closed here isReached queued next leads)

/-- In the end all is reached that a path leads to from the queue. -/
theorem mem_reachFrom (spreading : graph.Spreading bound queue reached) :
    id ∈ graph.reachFrom bound queue reached ↔
      id ∈ reached ∨ ∃ start ∈ queue, TransGen graph.Leads start id := by
  induction bound generalizing queue reached with
  | zero =>
      obtain rfl := spreading.queue_eq_nil
      simp [reachFrom_nil]
  | succ bound ih =>
      cases queue with
      | nil => simp [reachFrom_nil]
      | cons first queue =>
          rw [reachFrom_cons, ih spreading.next]
          constructor
          · rintro (isReached | ⟨start, queued, steps⟩)
            · rcases IdSet.mem_insertAll.1 isReached with before | isFresh
              · exact .inl before
              · exact .inr ⟨first, List.mem_cons_self, .single (mem_fresh.1 isFresh).1⟩
            · rcases List.mem_append.1 queued with later | isFresh
              · exact .inr ⟨start, List.mem_cons_of_mem _ later, steps⟩
              · exact .inr ⟨first, List.mem_cons_self, .head (mem_fresh.1 isFresh).1 steps⟩
          · rintro (before | ⟨start, queued, steps⟩)
            · exact .inl (IdSet.mem_insertAll.2 (.inl before))
            · rcases List.mem_cons.1 queued with rfl | later
              · obtain ⟨next, leads, onwards⟩ := TransGen.head'_iff.1 steps
                refine spreading.next.covers ?_ onwards
                rw [IdSet.mem_insertAll]
                by_cases known : next ∈ reached
                · exact .inl known
                · exact .inr (mem_fresh.2 ⟨leads, known⟩)
              · exact .inr ⟨start, List.mem_append_left _ later, steps⟩

end Spreading

/-- The dependents of a node are the other nodes that a path leads to from it. -/
theorem mem_dependents {root : String} :
    id ∈ graph.dependents root ↔ TransGen graph.Leads root id ∧ id ≠ root := by
  rw [dependents, IdSet.mem_erase, (Spreading.start graph root).mem_reachFrom]
  have nothing : id ∉ (∅ : IdSet) := List.not_mem_nil
  simp [nothing]

/-- A node is behind a cycle if it lies on one, or depends on a node that does. -/
theorem behindCycle_iff :
    graph.BehindCycle id ↔ ∃ other, TransGen graph.Leads other other ∧
      (id = other ∨ id ∈ graph.dependents other) := by
  simp only [BehindCycle, mem_dependents]
  refine exists_congr fun other => and_congr_right fun _ => ?_
  rw [reflTransGen_iff_eq_or_transGen]
  by_cases same : id = other
  · simp [same]
  · simp [same]

end PlanRunner.Graph
