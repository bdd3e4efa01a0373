import PlanRunner.Proofs.Plan.Validity

/-!
# The fault that is reported

Much may be wrong with a plan at once. The check of a plan reports that it has no step; else the
first identifier, in plan order, that is blank or has come before; else the first dependency on the
step itself or on no step at all, by the order of the steps and then by the order of identifiers.
-/

namespace PlanRunner

variable {steps : List Step} {step : Step} {plan : Plan} {id : String} {fault : PlanError}

/-- A text is white space if nothing is left of it by trimming. -/
theorem Text.isBlankText_iff {text : String} : isBlankText text = true ↔ trim text = "" := by
  rw [trim, String.ofList_eq_empty_iff, trimmed_eq_nil_iff, isBlankText, List.all_eq_true]

theorem Text.isBlankText_eq_false_iff {text : String} :
    isBlankText text = false ↔ trim text ≠ "" := by
  rw [← Bool.not_eq_true, isBlankText_iff]

/-- What comes before an identifier in the list of a set are the members that are less. -/
theorem IdSet.mem_before_iff {set : IdSet} {before after : List String} {other : String}
    (split : set.ids = before ++ id :: after) : other ∈ before ↔ other ∈ set ∧ other < id := by
  have sorted := set.sorted
  rw [split, List.pairwise_append, List.pairwise_cons] at sorted
  obtain ⟨-, ⟨greater, -⟩, less⟩ := sorted
  rw [← IdSet.mem_ids, split, List.mem_append, List.mem_cons]
  constructor
  · exact fun member => ⟨.inl member, less other member id List.mem_cons_self⟩
  · rintro ⟨member | rfl | member, isLess⟩
    · exact member
    · exact absurd isLess (String.lt_irrefl _)
    · exact absurd isLess (String.lt_asymm (greater other member))

/-! ## Graphs -/

namespace Graph

variable {before nodes : List String} {edges : List Edge}

/-- What is wrong with a node after others, if anything is. -/
def nodeFault? (before : List String) (id : String) : Option PlanError :=
  if Text.isBlankText id then some .blankId
  else if id ∈ before then some (.duplicateId id)
  else none

theorem nodeFault?_eq_some_iff :
    nodeFault? before id = some fault ↔
      Text.trim id = "" ∧ fault = .blankId ∨
        Text.trim id ≠ "" ∧ id ∈ before ∧ fault = .duplicateId id := by
  rw [nodeFault?, ← Text.isBlankText_eq_false_iff, ← Text.isBlankText_iff]
  split
  case isTrue blank => simp [blank, eq_comm (b := fault)]
  case isFalse named =>
    split
    case isTrue repeated => simp [named, repeated, eq_comm (b := fault)]
    case isFalse new => simp [named, new]

/-- Nodes are checked one after the other. -/
theorem checkNodes_cons {rest : List String} :
    checkNodes before (id :: rest) =
      match nodeFault? before id with
      | some fault => .error fault
      | none => checkNodes (id :: before) rest := by
  rw [checkNodes, nodeFault?]
  split
  · rfl
  · split <;> rfl

/-- What is reported of nodes is what is wrong with the first of them that is at fault. -/
theorem checkNodes_eq_error_iff :
    checkNodes before nodes = .error fault ↔
      ∃ earlier id later, nodes = earlier ++ id :: later ∧ checkNodes before earlier = .ok () ∧
        nodeFault? (earlier.reverse ++ before) id = some fault := by
  induction nodes generalizing before with
  | nil => simp [checkNodes]
  | cons first rest ih =>
      rw [checkNodes_cons]
      cases found : nodeFault? before first with
      | none =>
          constructor
          · intro failed
            obtain ⟨earlier, id, later, rfl, passed, isFault⟩ := ih.1 failed
            refine ⟨first :: earlier, id, later, rfl, ?_, by simpa using isFault⟩
            rwa [checkNodes_cons, found]
          · rintro ⟨earlier, id, later, same, passed, isFault⟩
            cases earlier with
            | nil =>
                obtain ⟨rfl, rfl⟩ := List.cons.inj same
                simp [found] at isFault
            | cons other earlier =>
                obtain ⟨rfl, rfl⟩ := List.cons.inj same
                rw [checkNodes_cons, found] at passed
                exact ih.2 ⟨earlier, id, later, rfl, passed, by simpa using isFault⟩
      | some firstFault =>
          constructor
          · rintro ⟨⟩
            exact ⟨[], first, rest, rfl, rfl, found⟩
          · rintro ⟨earlier, id, later, same, passed, isFault⟩
            cases earlier with
            | nil =>
                obtain ⟨rfl, rfl⟩ := List.cons.inj same
                rw [List.reverse_nil, List.nil_append, found] at isFault
                exact congrArg _ (Option.some.inj isFault)
            | cons other earlier =>
                obtain ⟨rfl, rfl⟩ := List.cons.inj same
                rw [checkNodes_cons, found] at passed
                contradiction

/-- What is wrong with an edge, if anything is. -/
def edgeFault? (nodes : List String) (edge : Edge) : Option PlanError :=
  if edge.source = edge.target then some (.selfDependency edge.target)
  else if edge.source ∈ nodes then none
  else some (.unknownDependency edge.target edge.source)

theorem edgeFault?_eq_none_iff {edge : Edge} :
    edgeFault? nodes edge = none ↔ edge.source ≠ edge.target ∧ edge.source ∈ nodes := by
  rw [edgeFault?]
  split
  · simp_all
  · split <;> simp_all

/-- What is reported of edges is what is wrong with the first of them that is at fault. -/
theorem checkEdges_eq_error_iff :
    checkEdges nodes edges = .error fault ↔ edges.findSome? (edgeFault? nodes) = some fault := by
  induction edges with
  | nil => simp [checkEdges]
  | cons edge rest ih =>
      rw [checkEdges, List.findSome?_cons, edgeFault?]
      split
      · simp
      · split
        · exact ih
        · simp

/-- The edges are checked once the nodes have passed. -/
theorem validate_eq_error_iff {graph : Graph} :
    graph.validate = .error fault ↔
      checkNodes [] graph.nodes = .error fault ∨
        checkNodes [] graph.nodes = .ok () ∧ checkEdges graph.nodes graph.edges = .error fault := by
  unfold validate
  cases checkNodes [] graph.nodes <;> simp [bind, Except.bind]

/-- To look through the edges of a graph of steps is to look through the dependencies of each. -/
theorem findSome?_edges_ofSteps {view : Edge → Option PlanError} :
    (ofSteps steps).edges.findSome? view =
      steps.findSome? fun step =>
        step.dependencies.ids.findSome? fun id => view ⟨id, step.id⟩ := by
  induction steps with
  | nil => rfl
  | cons step rest ih =>
      have split : (ofSteps (step :: rest)).edges =
          step.dependencies.ids.map (fun id => ⟨id, step.id⟩) ++ (ofSteps rest).edges := rfl
      rw [split, List.findSome?_append, List.findSome?_map, ih, List.findSome?_cons]
      change (step.dependencies.ids.findSome? fun id => view ⟨id, step.id⟩).or _ = _
      cases step.dependencies.ids.findSome? fun id => view ⟨id, step.id⟩ <;> rfl

end Graph

/-! ## Steps -/

/-- No identifier of a step is blank, and no two of them are the same. -/
structure Step.Named (steps : List Step) : Prop where
  named : ∀ step ∈ steps, Text.trim step.id ≠ ""
  distinct : Distinct steps

/-- The identifiers of steps pass the check if they name the steps. -/
theorem Step.named_iff : Graph.checkNodes [] (steps.map (·.id)) = .ok () ↔ Named steps := by
  rw [Graph.checkNodes_eq_ok_iff]
  simp only [List.mem_map, forall_exists_index, and_imp, forall_apply_eq_imp_iff₂,
    List.not_mem_nil, not_false_eq_true, and_true, Text.isBlankText_eq_false_iff]
  exact ⟨fun parts => ⟨parts.1, parts.2⟩, fun named => ⟨named.named, named.distinct⟩⟩

namespace Plan

/-- What a step of a plan may depend on: another step of the plan. -/
def Sound (plan : Plan) (step : Step) (id : String) : Prop :=
  id ≠ step.id ∧ ∃ dependency ∈ plan.steps, dependency.id = id

/-- The first dependency that is not sound, by the order of the steps and then by its identifier. -/
structure FirstUnsound (plan : Plan) (step : Step) (id : String) : Prop where
  depends : id ∈ step.dependencies
  unsound : ¬plan.Sound step id
  /-- The dependencies of the same step that come before it are sound. -/
  smaller : ∀ other ∈ step.dependencies, other < id → plan.Sound step other
  /-- The dependencies of the steps that come before are sound. -/
  earlier : ∃ before after, plan.steps = before ++ step :: after ∧
    ∀ other ∈ before, ∀ id ∈ other.dependencies, plan.Sound other id

/-- The fault of a plan that comes before all its other faults. -/
inductive FirstFault (plan : Plan) : PlanError → Prop where
  | noSteps (nothing : plan.steps = []) : FirstFault plan (.noSteps plan.id)
  | blankId {before after : List Step} {step : Step}
      (split : plan.steps = before ++ step :: after) (earlier : Step.Named before)
      (blank : Text.trim step.id = "") : FirstFault plan .blankId
  | duplicateId {before after : List Step} {step : Step}
      (split : plan.steps = before ++ step :: after) (earlier : Step.Named before)
      (named : Text.trim step.id ≠ "") (repeated : ∃ other ∈ before, other.id = step.id) :
      FirstFault plan (.duplicateId step.id)
  | selfDependency {step : Step} (named : Step.Named plan.steps)
      (first : plan.FirstUnsound step step.id) : FirstFault plan (.selfDependency step.id)
  | unknownDependency {step : Step} {id : String} (named : Step.Named plan.steps)
      (first : plan.FirstUnsound step id) (apart : id ≠ step.id) :
      FirstFault plan (.unknownDependency step.id id)

/-- An edge is at fault exactly if it stands for a dependency that is not sound. -/
theorem sound_iff :
    plan.Sound step id ↔ Graph.edgeFault? plan.graph.nodes ⟨id, step.id⟩ = none := by
  rw [Graph.edgeFault?_eq_none_iff]
  exact and_congr_right fun _ => List.mem_map.symm

/-- What is reported of the identifiers is the first that is blank or has come before. -/
theorem checkNodes_eq_error_iff :
    Graph.checkNodes [] plan.graph.nodes = .error fault ↔
      ∃ before step after, plan.steps = before ++ step :: after ∧ Step.Named before ∧
        (Text.trim step.id = "" ∧ fault = .blankId ∨
          Text.trim step.id ≠ "" ∧ (∃ other ∈ before, other.id = step.id) ∧
            fault = .duplicateId step.id) := by
  rw [Graph.checkNodes_eq_error_iff]
  constructor
  · rintro ⟨earlier, id, later, same, passed, isFault⟩
    obtain ⟨before, rest, split, rfl, sameRest⟩ := List.map_eq_append_iff.1 same
    obtain ⟨step, after, rfl, rfl, rfl⟩ := List.map_eq_cons_iff.1 sameRest
    refine ⟨before, step, after, split, Step.named_iff.1 passed, ?_⟩
    simpa [Graph.nodeFault?_eq_some_iff] using isFault
  · rintro ⟨before, step, after, split, named, isFault⟩
    refine ⟨before.map (·.id), step.id, after.map (·.id), ?_, Step.named_iff.2 named, ?_⟩
    · simp [graph, Graph.ofSteps, split]
    · simpa [Graph.nodeFault?_eq_some_iff] using isFault

/-- What is reported of the dependencies is what is wrong with the first that is not sound. -/
theorem checkEdges_eq_error_iff :
    Graph.checkEdges plan.graph.nodes plan.graph.edges = .error fault ↔
      ∃ step id, plan.FirstUnsound step id ∧
        Graph.edgeFault? plan.graph.nodes ⟨id, step.id⟩ = some fault := by
  have edges : plan.graph.edges = (Graph.ofSteps plan.steps).edges := rfl
  rw [Graph.checkEdges_eq_error_iff, edges, Graph.findSome?_edges_ofSteps,
    List.findSome?_eq_some_iff]
  constructor
  · rintro ⟨before, step, after, split, found, clear⟩
    obtain ⟨smaller, id, larger, ids, isFault, sound⟩ := List.findSome?_eq_some_iff.1 found
    refine ⟨step, id, ⟨?depends, ?unsound, ?smaller, before, after, split, ?earlier⟩, isFault⟩
    case depends => exact IdSet.mem_ids.1 (ids ▸ List.mem_append_right _ List.mem_cons_self)
    case unsound =>
      rw [sound_iff, isFault]
      simp
    case smaller =>
      intro other depends isLess
      exact sound_iff.2 (sound other ((IdSet.mem_before_iff ids).2 ⟨depends, isLess⟩))
    case earlier =>
      intro other member id depends
      exact sound_iff.2 (List.findSome?_eq_none_iff.1 (clear other member) id depends)
  · rintro ⟨step, id, first, isFault⟩
    obtain ⟨before, after, split, sound⟩ := first.earlier
    obtain ⟨smaller, larger, ids⟩ := List.append_of_mem (IdSet.mem_ids.2 first.depends)
    refine ⟨before, step, after, split, ?_, ?_⟩
    · refine List.findSome?_eq_some_iff.2 ⟨smaller, id, larger, ids, isFault, ?_⟩
      intro other member
      obtain ⟨depends, isLess⟩ := (IdSet.mem_before_iff ids).1 member
      exact sound_iff.1 (first.smaller other depends isLess)
    · intro other member
      refine List.findSome?_eq_none_iff.2 fun id depends => ?_
      exact sound_iff.1 (sound other member id depends)

/-- The check lets a plan through that has a step, names its steps and has sound dependencies. -/
theorem validate_eq_ok_iff :
    plan.validate = .ok () ↔
      plan.steps ≠ [] ∧ Step.Named plan.steps ∧
        ∀ step ∈ plan.steps, ∀ id ∈ step.dependencies, plan.Sound step id := by
  rw [validate_eq_ok]
  constructor
  · intro valid
    refine ⟨valid.nonempty, ⟨?_, valid.distinct⟩, fun step member id depends => ⟨?_, ?_⟩⟩
    · exact fun step member => Text.isBlankText_eq_false_iff.1 (valid.named step member)
    · rintro rfl
      exact valid.apart step member depends
    · exact valid.known step member id depends
  · rintro ⟨nonempty, named, sound⟩
    refine ⟨nonempty, ?_, named.distinct, ?_, ?_⟩
    · exact fun step member => Text.isBlankText_eq_false_iff.2 (named.named step member)
    · exact fun step member depends => (sound step member step.id depends).1 rfl
    · exact fun step member id depends => (sound step member id depends).2

/-- What is wrong with a dependency that is not sound. -/
theorem edgeFault?_of_not_sound (unsound : ¬plan.Sound step id) :
    Graph.edgeFault? plan.graph.nodes ⟨id, step.id⟩ =
      if id = step.id then some (.selfDependency step.id)
      else some (.unknownDependency step.id id) := by
  rw [sound_iff, Graph.edgeFault?] at unsound
  rw [Graph.edgeFault?]
  split
  · rfl
  · rename_i apart
    rw [if_neg apart] at unsound
    exact if_neg fun known => unsound (if_pos known)

/-- In a plan whose steps are named the first dependency that is not sound is the first fault. -/
theorem FirstUnsound.firstFault (first : plan.FirstUnsound step id)
    (named : Step.Named plan.steps)
    (isFault : Graph.edgeFault? plan.graph.nodes ⟨id, step.id⟩ = some fault) :
    plan.FirstFault fault := by
  rw [edgeFault?_of_not_sound first.unsound] at isFault
  split at isFault
  case isTrue same =>
    subst same
    cases isFault
    exact .selfDependency named first
  case isFalse apart =>
    cases isFault
    exact .unknownDependency named first apart

theorem FirstUnsound.ne_nil (first : plan.FirstUnsound step id) : plan.steps ≠ [] := by
  obtain ⟨before, after, split, -⟩ := first.earlier
  simp [split]

/-- Of all that is wrong with a plan its check reports the first fault. -/
theorem validate_eq_error_iff : plan.validate = .error fault ↔ plan.FirstFault fault := by
  have passes : Graph.checkNodes [] plan.graph.nodes = .ok () ↔ Step.Named plan.steps :=
    Step.named_iff
  by_cases nothing : plan.steps = []
  · have checked : plan.validate = .error (.noSteps plan.id) := by simp [validate, nothing]
    rw [checked]
    constructor
    · rintro ⟨⟩
      exact .noSteps nothing
    · intro first
      cases first with
      | noSteps => rfl
      | blankId split | duplicateId split => simp [split] at nothing
      | selfDependency _ first | unknownDependency _ first => exact absurd nothing first.ne_nil
  · have checked : plan.validate = plan.graph.validate := by simp [validate, nothing]
    rw [checked, Graph.validate_eq_error_iff, passes, checkNodes_eq_error_iff,
      checkEdges_eq_error_iff]
    constructor
    · rintro (⟨before, step, after, split, earlier, ⟨blank, rfl⟩ | ⟨named, repeated, rfl⟩⟩ |
        ⟨named, step, id, first, isFault⟩)
      · exact .blankId split earlier blank
      · exact .duplicateId split earlier named repeated
      · exact first.firstFault named isFault
    · intro first
      cases first with
      | noSteps isNil => exact absurd isNil nothing
      | blankId split earlier blank => exact .inl ⟨_, _, _, split, earlier, .inl ⟨blank, rfl⟩⟩
      | duplicateId split earlier named repeated =>
          exact .inl ⟨_, _, _, split, earlier, .inr ⟨named, repeated, rfl⟩⟩
      | selfDependency named first =>
          refine .inr ⟨named, _, _, first, ?_⟩
          rw [edgeFault?_of_not_sound first.unsound, if_pos rfl]
      | unknownDependency named first apart =>
          refine .inr ⟨named, _, _, first, ?_⟩
          rw [edgeFault?_of_not_sound first.unsound, if_neg apart]

end Plan

end PlanRunner
