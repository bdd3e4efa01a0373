import Mathlib.Data.List.Chain
import Mathlib.Data.List.Perm.Subperm
import PlanRunner.Graph.Cycle
import PlanRunner.Proofs.Graph.Paths

/-!
# Finding cycles

The search in depth keeps the path to the node that it is at, and the nodes that it has searched to
the end. An edge back to the path closes a cycle. What has been searched to the end leads to nothing
else and lies on no cycle, and no node is searched from twice. The path never outgrows its bound,
since it repeats no node. So a cycle is found exactly if a listed node leads to one.
-/

namespace PlanRunner.Graph

open Relation

variable {graph : Graph} {bound : Nat} {path done finished starts rest found : List String}
  {id far : String}

/-! ## Cycles as lists -/

/-- A path leads to a node from a listed one; every listed node is reachable itself. -/
def Reachable (graph : Graph) (id : String) : Prop :=
  ∃ root ∈ graph.nodes, ReflTransGen graph.Leads root id

/-- A path along edges that ends where it starts and repeats no other node. -/
structure ClosedPath (graph : Graph) (path : List String) : Prop where
  long : 2 ≤ path.length
  closed : path.head? = path.getLast?
  distinct : path.dropLast.Nodup
  joined : path.IsChain graph.Leads

theorem Reachable.of_mem (member : id ∈ graph.nodes) : graph.Reachable id :=
  ⟨id, member, .refl⟩

theorem Reachable.tail (reachable : graph.Reachable far) (leads : graph.Leads far id) :
    graph.Reachable id := by
  obtain ⟨root, member, steps⟩ := reachable
  exact ⟨root, member, steps.tail leads⟩

/-- A node that is reachable is listed, or it is the target of an edge. -/
theorem Reachable.mem (reachable : graph.Reachable id) :
    id ∈ graph.nodes ++ graph.edges.map (·.target) := by
  obtain ⟨root, member, steps⟩ := reachable
  cases steps with
  | refl => exact List.mem_append_left _ member
  | tail _ leads => exact List.mem_append_right _ (List.mem_map_of_mem leads)

/-- A closed path starts and ends with one node. -/
theorem ClosedPath.exists_eq (cycle : graph.ClosedPath path) :
    ∃ first between, path = first :: (between ++ [first]) := by
  obtain ⟨long, closed, -, -⟩ := cycle
  cases path with
  | nil => contradiction
  | cons first rest =>
      rcases rest.eq_nil_or_concat with rfl | ⟨between, last, rfl⟩
      · simp at long
      · rw [List.concat_eq_append, ← List.cons_append, List.getLast?_concat] at closed
        obtain rfl : first = last := Option.some.inj closed
        exact ⟨first, between, by rw [List.concat_eq_append]⟩

/-- Every node of a closed path lies on a cycle. -/
theorem ClosedPath.transGen_self (cycle : graph.ClosedPath path) (member : id ∈ path) :
    TransGen graph.Leads id id := by
  have steps : path.Pairwise (TransGen graph.Leads) :=
    (cycle.joined.imp fun _ _ leads => .single leads).pairwise
  obtain ⟨first, between, rfl⟩ := cycle.exists_eq
  have out := (List.pairwise_cons.1 steps).1
  have back := (List.pairwise_append.1 (List.pairwise_cons.1 steps).2).2.2
  have around : TransGen graph.Leads first first := out first (by simp)
  rcases List.mem_cons.1 member with rfl | later
  · exact around
  · rcases List.mem_append.1 later with isBetween | isLast
    · exact (back id isBetween first (List.mem_singleton.2 rfl)).trans (out id later)
    · exact List.mem_singleton.1 isLast ▸ around

/-- A path within nodes that lead to nothing else stays there. -/
theorem mem_of_reflTransGen (closed : ∀ id ∈ done, ∀ next, graph.Leads id next → next ∈ done)
    (member : id ∈ done) (steps : ReflTransGen graph.Leads id far) : far ∈ done := by
  induction steps with
  | refl => exact member
  | tail _ leads ih => exact closed _ ih _ leads

/-! ## The state of a search -/

/-- The nodes that a search looks at next: each is reachable, and the nearest node leads to it. -/
def Follows (graph : Graph) (path : List String) (id : String) : Prop :=
  graph.Reachable id ∧ ∀ near ∈ path.head?, graph.Leads near id

/-- What is known of a search, given its path, nearest node first, and what it has done. -/
structure Searching (graph : Graph) (bound : Nat) (path done : List String) : Prop where
  room : graph.pathBound ≤ path.length + bound
  distinct : path.Nodup
  joined : path.IsChain fun near far => graph.Leads far near
  reached : ∀ id ∈ path, graph.Reachable id
  /-- No node of the path has been searched to the end. -/
  apart : ∀ id ∈ path, id ∉ done
  /-- What has been searched to the end leads to nothing else. -/
  closed : ∀ id ∈ done, ∀ next, graph.Leads id next → next ∈ done
  clear : ∀ id ∈ done, ¬TransGen graph.Leads id id

namespace Searching

theorem start (graph : Graph) : graph.Searching graph.pathBound [] [] := by
  constructor <;> simp

/-- As long as there is a node to go on to, the path may grow. -/
theorem bound_ne_zero (searching : graph.Searching bound path done)
    (reachable : graph.Reachable id) (fresh : id ∉ path) : bound ≠ 0 := by
  rintro rfl
  have nodup : (id :: path).Nodup := List.nodup_cons.2 ⟨fresh, searching.distinct⟩
  have part : id :: path ⊆ graph.nodes ++ graph.edges.map (·.target) := by
    intro other member
    cases List.mem_cons.1 member with
    | inl same => exact same ▸ reachable.mem
    | inr onPath => exact (searching.reached other onPath).mem
  have short := (nodup.subperm part).length_le
  have room := searching.room
  simp only [List.length_cons, List.length_append, List.length_map, pathBound] at short room
  omega

/-- The search goes on to a node. -/
theorem enter (searching : graph.Searching (bound + 1) path done) (follows : graph.Follows path id)
    (fresh : id ∉ path) (undone : id ∉ done) : graph.Searching bound (id :: path) done := by
  refine ⟨?room, ?distinct, ?joined, ?reached, ?apart, searching.closed, searching.clear⟩
  case room =>
    have room := searching.room
    rw [List.length_cons]
    omega
  case distinct => exact List.nodup_cons.2 ⟨fresh, searching.distinct⟩
  case joined => exact List.isChain_cons.2 ⟨follows.2, searching.joined⟩
  case reached => exact List.forall_mem_cons.2 ⟨follows.1, searching.reached⟩
  case apart => exact List.forall_mem_cons.2 ⟨undone, searching.apart⟩

/-- The search is done with a node that leads only to nodes that are done. -/
theorem leave (searching : graph.Searching bound (id :: path) done)
    (onwards : graph.successors id ⊆ done) : graph.Searching (bound + 1) path (id :: done) := by
  obtain ⟨fresh, distinct⟩ := List.nodup_cons.1 searching.distinct
  obtain ⟨undone, apart⟩ := List.forall_mem_cons.1 searching.apart
  have next : ∀ next, graph.Leads id next → next ∈ done :=
    fun next leads => onwards (mem_successors.2 leads)
  refine ⟨?room, distinct, searching.joined.tail, ?reached, ?apart, ?closed, ?clear⟩
  case room =>
    have room := searching.room
    rw [List.length_cons] at room
    omega
  case reached => exact (List.forall_mem_cons.1 searching.reached).2
  case apart =>
    intro other onPath member
    rcases List.mem_cons.1 member with rfl | isDone
    · exact fresh onPath
    · exact apart other onPath isDone
  case closed =>
    refine List.forall_mem_cons.2 ⟨?_, ?_⟩
    · exact fun other leads => List.mem_cons_of_mem _ (next other leads)
    · exact fun other isDone more leads =>
        List.mem_cons_of_mem _ (searching.closed other isDone more leads)
  case clear =>
    refine List.forall_mem_cons.2 ⟨fun cycle => ?_, searching.clear⟩
    -- A way back to the node would stay within what is done, and the node is not.
    obtain ⟨first, leads, back⟩ := TransGen.head'_iff.1 cycle
    exact undone (mem_of_reflTransGen searching.closed (next first leads) back)

/-- An edge back to the path closes a cycle, all of whose nodes are reachable. -/
theorem close (searching : graph.Searching bound path done) (follows : graph.Follows path id)
    (onPath : id ∈ path) :
    graph.ClosedPath (closePath path id) ∧ ∀ other ∈ closePath path id, graph.Reachable other := by
  obtain ⟨later, earlier, rfl, notLater⟩ := List.eq_append_cons_of_mem onPath
  have nearest : (later ++ id :: earlier).takeWhile (· ≠ id) = later := by
    rw [List.takeWhile_append_of_pos]
    · simp
    · exact fun other member => decide_eq_true fun same => notLater (same ▸ member)
  rw [closePath, nearest]
  have distinct := (List.nodup_append.1 searching.distinct).1
  have reached := (List.forall_mem_append.1 searching.reached).1
  constructor
  · refine ⟨?long, ?closed, ?distinct, ?joined⟩
    case long => simp
    case closed => rw [List.head?_cons, ← List.cons_append, List.getLast?_concat]
    case distinct =>
      rw [← List.cons_append, List.dropLast_concat, List.nodup_cons]
      exact ⟨by simpa using notLater, List.nodup_reverse.2 distinct⟩
    case joined =>
      have part : later ++ [id] <+: later ++ id :: earlier := ⟨earlier, by simp⟩
      have nearest : (later ++ [id]).head? = (later ++ id :: earlier).head? := by simp
      have backwards : (id :: (later ++ [id])).IsChain fun near far => graph.Leads far near :=
        List.isChain_cons.2 ⟨nearest ▸ follows.2, searching.joined.prefix part⟩
      simpa [flip] using List.isChain_reverse.2 backwards
  · intro other member
    have isLater : other = id ∨ other ∈ later := by simpa [or_comm] using member
    rcases isLater with rfl | isLater
    · exact follows.1
    · exact reached other isLater

end Searching

/-! ## Visits -/

mutual

/-- The nodes that a search searches from, in order, when it searches from one. -/
def visitsFrom (graph : Graph) : Nat → List String → List String → String → List String
  | 0, _, _, id => [id]
  | bound + 1, path, done, id =>
      id :: visitsAll graph bound (id :: path) done (graph.successors id)

/-- The nodes that a search searches from, in order, when it searches from some in order. -/
def visitsAll (graph : Graph) : Nat → List String → List String → List String → List String
  | _, _, _, [] => []
  | bound, path, done, id :: rest =>
      if id ∈ path then []
      else if id ∈ done then visitsAll graph bound path done rest
      else
        visitsFrom graph bound path done id ++
          match searchFrom graph bound path done id with
          | .cycle _ => []
          | .clear done => visitsAll graph bound path done rest

end

/-- The nodes that the search for a cycle searches from, in order. -/
def visits (graph : Graph) : List String :=
  graph.visitsAll graph.pathBound [] [] graph.nodes

mutual

/-- The search from a node, with a log of the nodes that it searches from. -/
def loggedFrom (graph : Graph) :
    Nat → List String → List String → String → Search × List String
  | 0, _, done, id => (.clear (id :: done), [id])
  | bound + 1, path, done, id =>
      match loggedAll graph bound (id :: path) done (graph.successors id) with
      | (.cycle found, log) => (.cycle found, id :: log)
      | (.clear done, log) => (.clear (id :: done), id :: log)

/-- The search from nodes in order, with a log of the nodes that it searches from. -/
def loggedAll (graph : Graph) :
    Nat → List String → List String → List String → Search × List String
  | _, _, done, [] => (.clear done, [])
  | bound, path, done, id :: rest =>
      if id ∈ path then (.cycle (closePath path id), [])
      else if id ∈ done then loggedAll graph bound path done rest
      else
        match loggedFrom graph bound path done id with
        | (.cycle found, log) => (.cycle found, log)
        | (.clear done, log) =>
            let (outcome, later) := loggedAll graph bound path done rest
            (outcome, log ++ later)

end

/-- With a bound, the log of a search from nodes in order is its visits, if that holds for the
search from every single node. -/
theorem loggedAll_eq_of (single : ∀ path done id, graph.loggedFrom bound path done id =
    (graph.searchFrom bound path done id, graph.visitsFrom bound path done id)) :
    ∀ path done starts, graph.loggedAll bound path done starts =
      (graph.searchAll bound path done starts, graph.visitsAll bound path done starts) := by
  intro path done starts
  induction starts generalizing done with
  | nil => rw [loggedAll, searchAll, visitsAll]
  | cons id rest ih =>
      rw [loggedAll, searchAll, visitsAll]
      by_cases onPath : id ∈ path
      · simp only [onPath, if_true]
      · by_cases isDone : id ∈ done
        · simp only [onPath, isDone, if_true, if_false, ih]
        · simp only [onPath, isDone, if_false, single]
          cases graph.searchFrom bound path done id with
          | cycle found => rw [List.append_nil]
          | clear finished => simp only [ih]

/-- A search with a log comes to the same, and its log is what it visits. -/
theorem loggedFrom_eq (graph : Graph) (bound : Nat) :
    ∀ path done id, graph.loggedFrom bound path done id =
      (graph.searchFrom bound path done id, graph.visitsFrom bound path done id) := by
  induction bound with
  | zero =>
      intro path done id
      rw [loggedFrom, searchFrom, visitsFrom]
  | succ bound ih =>
      intro path done id
      rw [loggedFrom, searchFrom, visitsFrom, loggedAll_eq_of ih]
      -- Whatever the search from the successors comes to, the node itself stands first in the log.
      cases graph.searchAll bound (id :: path) done (graph.successors id) with
      | cycle found => rfl
      | clear finished => rfl

/-- The search for a cycle, with a log of the nodes that it searches from. -/
def loggedSearch (graph : Graph) : Search × List String :=
  graph.loggedAll graph.pathBound [] [] graph.nodes

/-- Without its log the search is the one that finds the first cycle, and the log is its visits. -/
theorem loggedSearch_eq (graph : Graph) :
    graph.loggedSearch =
      (graph.searchAll graph.pathBound [] [] graph.nodes, graph.visits) :=
  loggedAll_eq_of (graph.loggedFrom_eq graph.pathBound) [] [] graph.nodes

/-- What a search from some nodes tells, and which nodes it has searched from. -/
structure Told (graph : Graph) (bound : Nat) (path done starts visited : List String)
    (outcome : Search) : Prop where
  once : visited.Nodup
  fresh : ∀ id ∈ visited, id ∉ path ∧ id ∉ done
  reached : ∀ id ∈ visited, graph.Reachable id
  cycle : ∀ found, outcome = .cycle found →
    graph.ClosedPath found ∧ ∀ id ∈ found, graph.Reachable id
  clear : ∀ finished, outcome = .clear finished →
    graph.Searching bound path finished ∧ starts ⊆ finished ∧
      ∀ id, id ∈ finished ↔ id ∈ visited ∨ id ∈ done

namespace Told

variable {visited more : List String} {outcome : Search}

/-- A node that is done already need not be searched from. -/
theorem cons_of_mem (told : graph.Told bound path done rest visited outcome) (isDone : id ∈ done) :
    graph.Told bound path done (id :: rest) visited outcome := by
  refine ⟨told.once, told.fresh, told.reached, told.cycle, fun finished isClear => ?_⟩
  obtain ⟨searching, started, members⟩ := told.clear finished isClear
  refine ⟨searching, List.cons_subset.2 ⟨?_, started⟩, members⟩
  exact (members id).2 (.inr isDone)

/-- A search that found a cycle goes no further. -/
theorem cons_of_cycle (told : graph.Told bound path done [id] visited (.cycle found)) :
    graph.Told bound path done (id :: rest) visited (.cycle found) :=
  ⟨told.once, told.fresh, told.reached, told.cycle, by simp⟩

/-- A search goes on where another one has come to its end. -/
theorem append (told : graph.Told bound path done [id] visited (.clear finished))
    (later : graph.Told bound path finished rest more outcome) :
    graph.Told bound path done (id :: rest) (visited ++ more) outcome := by
  obtain ⟨-, single, members⟩ := told.clear finished rfl
  refine ⟨?once, ?fresh, ?reached, later.cycle, ?clear⟩
  case once =>
    refine List.nodup_append.2 ⟨told.once, later.once, ?_⟩
    rintro other early _ late rfl
    exact (later.fresh other late).2 ((members other).2 (.inl early))
  case fresh =>
    refine List.forall_mem_append.2 ⟨told.fresh, fun other late => ?_⟩
    obtain ⟨offPath, notDone⟩ := later.fresh other late
    exact ⟨offPath, fun isDone => notDone ((members other).2 (.inr isDone))⟩
  case reached => exact List.forall_mem_append.2 ⟨told.reached, later.reached⟩
  case clear =>
    intro last isClear
    obtain ⟨searching, started, lastMembers⟩ := later.clear last isClear
    refine ⟨searching, List.cons_subset.2 ⟨?_, started⟩, fun other => ?_⟩
    · exact (lastMembers id).2 (.inr (single List.mem_cons_self))
    · rw [lastMembers, members, List.mem_append]
      tauto

end Told

/-- A search with a bound tells what it should from every node. -/
def TellsFrom (graph : Graph) (bound : Nat) : Prop :=
  ∀ {path done id}, graph.Searching bound path done → graph.Follows path id → id ∉ path →
    id ∉ done → graph.Told bound path done [id] (graph.visitsFrom bound path done id)
      (graph.searchFrom bound path done id)

/-- A search with a bound tells what it should from any nodes in order. -/
def TellsAll (graph : Graph) (bound : Nat) : Prop :=
  ∀ {path done starts}, graph.Searching bound path done →
    (∀ id ∈ starts, graph.Follows path id) →
      graph.Told bound path done starts (graph.visitsAll bound path done starts)
        (graph.searchAll bound path done starts)

theorem tellsFrom_zero : graph.TellsFrom 0 :=
  fun searching follows fresh _ => absurd rfl (searching.bound_ne_zero follows.1 fresh)

theorem tellsFrom_succ (all : graph.TellsAll bound) : graph.TellsFrom (bound + 1) := by
  intro path done id searching follows fresh undone
  have onwards : ∀ next ∈ graph.successors id, graph.Follows (id :: path) next := by
    intro next member
    have leads := mem_successors.1 member
    exact ⟨follows.1.tail leads, by simpa using leads⟩
  have told := all (searching.enter follows fresh undone) onwards
  rw [visitsFrom, searchFrom]
  refine ⟨?once, ?fresh, ?reached, ?cycle, ?clear⟩
  case once =>
    refine List.nodup_cons.2 ⟨fun again => ?_, told.once⟩
    exact (told.fresh id again).1 List.mem_cons_self
  case fresh =>
    refine List.forall_mem_cons.2 ⟨⟨fresh, undone⟩, fun other visited => ?_⟩
    obtain ⟨offPath, notDone⟩ := told.fresh other visited
    exact ⟨fun onPath => offPath (List.mem_cons_of_mem _ onPath), notDone⟩
  case reached => exact List.forall_mem_cons.2 ⟨follows.1, told.reached⟩
  case cycle =>
    intro found outcome
    split at outcome
    · rename_i path further
      cases outcome
      exact told.cycle _ further
    · contradiction
  case clear =>
    intro finished outcome
    split at outcome
    · contradiction
    · rename_i later further
      cases outcome
      obtain ⟨searching, successors, members⟩ := told.clear _ further
      refine ⟨searching.leave successors, by simp, fun other => ?_⟩
      rw [List.mem_cons, List.mem_cons, members, or_assoc]

theorem tellsAll (froms : graph.TellsFrom bound) : graph.TellsAll bound := by
  intro path done starts searching follows
  induction starts generalizing done with
  | nil =>
      rw [visitsAll, searchAll]
      constructor <;> simp_all
  | cons id rest ih =>
      obtain ⟨first, others⟩ := List.forall_mem_cons.1 follows
      rw [visitsAll, searchAll]
      by_cases onPath : id ∈ path
      · simp only [onPath, if_true]
        refine ⟨.nil, by simp, by simp, fun found outcome => ?_, by simp⟩
        cases outcome
        exact searching.close first onPath
      · by_cases isDone : id ∈ done
        · simp only [onPath, isDone, if_true, if_false]
          exact (ih searching others).cons_of_mem isDone
        · simp only [onPath, isDone, if_false]
          have told := froms searching first onPath isDone
          cases outcome : graph.searchFrom bound path done id with
          | cycle found =>
              rw [outcome] at told
              simpa using told.cons_of_cycle
          | clear finished =>
              rw [outcome] at told
              obtain ⟨searching, -, -⟩ := told.clear finished rfl
              exact told.append (ih searching others)

/-- A search tells what it should, however far it may still go. -/
theorem tells (graph : Graph) (bound : Nat) : graph.TellsAll bound := by
  induction bound with
  | zero => exact tellsAll tellsFrom_zero
  | succ bound ih => exact tellsAll (tellsFrom_succ ih)

/-! ## The first cycle -/

theorem told_findCycle (graph : Graph) :
    graph.Told graph.pathBound [] [] graph.nodes graph.visits
      (graph.searchAll graph.pathBound [] [] graph.nodes) :=
  graph.tells graph.pathBound (.start graph) fun _ member => ⟨.of_mem member, by simp⟩

theorem closedPath_of_findCycle (isFound : graph.findCycle = some path) :
    graph.ClosedPath path ∧ ∀ id ∈ path, graph.Reachable id := by
  unfold findCycle at isFound
  split at isFound
  · rename_i found outcome
    cases isFound
    exact graph.told_findCycle.cycle _ outcome
  · contradiction

/-- A search that finds no cycle has searched from all that is reachable, and there is none. -/
theorem mem_visits_of_findCycle (nothing : graph.findCycle = none)
    (reachable : graph.Reachable id) :
    id ∈ graph.visits ∧ ¬TransGen graph.Leads id id := by
  unfold findCycle at nothing
  split at nothing
  · contradiction
  · rename_i finished outcome
    obtain ⟨searching, started, members⟩ := graph.told_findCycle.clear finished outcome
    obtain ⟨root, member, steps⟩ := reachable
    have isDone := mem_of_reflTransGen searching.closed (started member) steps
    exact ⟨by simpa using (members id).1 isDone, searching.clear id isDone⟩

/-- A cycle is found exactly if a listed node leads to one. -/
theorem findCycle_eq_none_iff :
    graph.findCycle = none ↔ ∀ id, graph.Reachable id → ¬TransGen graph.Leads id id := by
  constructor
  · exact fun nothing id reachable => (mem_visits_of_findCycle nothing reachable).2
  · intro clear
    rw [Option.eq_none_iff_forall_ne_some]
    intro path isFound
    obtain ⟨cycle, reached⟩ := closedPath_of_findCycle isFound
    obtain ⟨first, between, rfl⟩ := cycle.exists_eq
    exact clear first (reached first List.mem_cons_self)
      (cycle.transGen_self List.mem_cons_self)

/--
A cycle is found exactly if some node on a cycle can be reached from a listed one. What is found is
a path along edges that ends where it starts and repeats no other node. The visits are the log of
the search. No node is searched from twice, and if no cycle is found then every node that can be
reached has been searched from.
-/
theorem finds_exactly_reachable_cycles (graph : Graph) :
    (graph.findCycle.isSome = true ↔
      ∃ id, graph.Reachable id ∧ TransGen graph.Leads id id) ∧
    (∀ path, graph.findCycle = some path →
      graph.ClosedPath path ∧ ∀ id ∈ path, graph.Reachable id) ∧
    graph.loggedSearch =
      (graph.searchAll graph.pathBound [] [] graph.nodes, graph.visits) ∧
    graph.visits.Nodup ∧ (∀ id ∈ graph.visits, graph.Reachable id) ∧
    (graph.findCycle = none → ∀ id, graph.Reachable id → id ∈ graph.visits) := by
  refine ⟨?_, fun path => closedPath_of_findCycle, graph.loggedSearch_eq,
    graph.told_findCycle.once, graph.told_findCycle.reached,
    fun nothing id reachable => (mem_visits_of_findCycle nothing reachable).1⟩
  rw [Option.isSome_iff_ne_none, Ne, findCycle_eq_none_iff]
  push Not
  rfl

/-- An edge from an unlisted node to itself is a cycle, if a listed node leads there. -/
example : findCycle ⟨["first"], [⟨"first", "second"⟩, ⟨"second", "second"⟩]⟩ =
    some ["second", "second"] := by
  cbv

end PlanRunner.Graph
