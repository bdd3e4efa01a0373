import Mathlib.Data.List.Basic
import PlanRunner.Run.Engine

/-!
# What a turn depends on

A turn depends on the resolved arguments, on the answers that the step gets to its calls and on the
number of retries, and on nothing else but the times. A turn leaves its step as it was, except for
the status, the result, the error and the retry count.
-/

namespace PlanRunner

/-! ## Times left out -/

/-- A call without its times. -/
def Call.untimed (call : Call) : Call :=
  { call with startsAt := 0, endsAt := 0, retryDelay := none }

/-- A turn without its times. -/
def Turn.untimed (turn : Turn) : Turn :=
  { turn with calls := turn.calls.map Call.untimed, elapsed := 0 }

/-- A record without its times. -/
def StepRecord.untimed (record : StepRecord) : StepRecord :=
  { record with duration := 0, completedAt := default }

theorem Call.answer_eq_of_untimed {first second : Call} (same : first.untimed = second.untimed) :
    first.answer = second.answer := by
  injection same

theorem Turn.step_eq_of_untimed {first second : Turn} (same : first.untimed = second.untimed) :
    first.step = second.step := by
  injection same

theorem Turn.ending_eq_of_untimed {first second : Turn} (same : first.untimed = second.untimed) :
    first.ending = second.ending := by
  injection same

/-- The answer that a step gets to a call, which may be that the call took too long. -/
def Gateways.answer (settings : Settings) (gateways : Gateways) (action : Action) (before : Nat) :
    Answer :=
  ((gateways.invoke action before).within settings).value

/-- The arguments of all steps are resolved by filling in the templates, and never in vain. -/
def Gateways.UsesTemplates (gateways : Gateways) (input : String) : Prop :=
  ∀ step steps,
    (gateways.resolve step steps).value = .ok (Template.resolve steps input step.arguments)

/-- All arguments are resolved by filling in the templates, unless the resolver breaks down. -/
def Gateways.UsesTemplatesOrBreaks (gateways : Gateways) (input : String) : Prop :=
  ∀ step steps,
    (gateways.resolve step steps).value = .ok (Template.resolve steps input step.arguments) ∨
      ∃ message, (gateways.resolve step steps).value = .error message

theorem Gateways.UsesTemplates.orBreaks {gateways : Gateways} {input : String}
    (templates : gateways.UsesTemplates input) : gateways.UsesTemplatesOrBreaks input :=
  fun step steps => .inl (templates step steps)

/-- Two worlds in which a step gets the same answers to the same calls, and the same retries. -/
structure SameAnswers (settings other : Settings) (gateways others : Gateways) : Prop where
  retries : settings.maxRetries = other.maxRetries
  answers : ∀ action before,
    gateways.answer settings action before = others.answer other action before

namespace SameAnswers

variable {settings other : Settings} {gateways others : Gateways}

theorem symm (same : SameAnswers settings other gateways others) :
    SameAnswers other settings others gateways :=
  ⟨same.retries.symm, fun action before => (same.answers action before).symm⟩

end SameAnswers

namespace Turn

variable {settings other : Settings} {gateways others : Gateways} {steps : List Step}
  {step : Step} {turn : Turn}

/-! ## The same turn at other times -/

theorem callAt_untimed (same : SameAnswers settings other gateways others) (action : Action)
    (before now later : Nat) :
    (callAt settings gateways action before now).untimed =
      (callAt other others action before later).untimed := by
  have answer := same.answers action before
  simp only [Gateways.answer] at answer
  simp only [callAt, Call.untimed, answer]

/-- Calls that get the same answers are repeated equally often, whenever they are made. -/
theorem callsFrom_untimed (same : SameAnswers settings other gateways others) (action : Action)
    (retries before now later : Nat) :
    (callsFrom settings gateways action retries before now).1.map Call.untimed =
        (callsFrom other others action retries before later).1.map Call.untimed ∧
      (callsFrom settings gateways action retries before now).2.untimed =
        (callsFrom other others action retries before later).2.untimed := by
  induction retries generalizing before now later with
  | zero => exact ⟨rfl, callAt_untimed same action before now later⟩
  | succ retries ih =>
      have call := callAt_untimed same action before now later
      have answer := Call.answer_eq_of_untimed call
      simp only [callsFrom, answer]
      cases (callAt other others action before later).answer with
      | success content => exact ⟨rfl, call⟩
      | failure message =>
          obtain ⟨repeated, last⟩ := ih (before + 1)
            ((callAt settings gateways action before now).endsAt +
              (settings.retryBackoff (UInt32.ofNat before)).toNat)
            ((callAt other others action before later).endsAt +
              (other.retryBackoff (UInt32.ofNat before)).toNat)
          refine ⟨?_, last⟩
          simp only [List.map_cons, repeated]
          rfl

theorem retriesLeft_eq (same : SameAnswers settings other gateways others) (step : Step) :
    retriesLeft settings step = retriesLeft other step := by
  simp only [retriesLeft, same.retries]

@[simp] theorem step_take : (take settings gateways steps step).step = step := by
  unfold take
  simp only
  split
  · rfl
  · split <;> rfl

theorem with_step_eq (same : turn.step = step) : { turn with step } = turn := by
  rw [← same]

/-- Turns of steps that ask for the same differ in nothing but the steps and the times. -/
theorem take_of_like (same : SameAnswers settings other gateways others) {seen : List Step}
    {first last : Step}
    (resolved : (gateways.resolve first steps).value = (others.resolve last seen).value)
    (actions : Action.ofStep first = Action.ofStep last)
    (count : first.retryCount = last.retryCount) (limit : first.maxRetries = last.maxRetries) :
    (take settings gateways steps first).untimed =
      { (take other others seen last).untimed with step := first } := by
  have retries : retriesLeft settings first = retriesLeft settings last := by
    simp only [retriesLeft, Step.retryBudget, count, limit]
  simp only [take, resolved]
  cases (others.resolve last seen).value with
  | error message => rfl
  | ok resolution =>
      simp only
      split
      · obtain ⟨repeated, final⟩ := callsFrom_untimed same
          (Action.ofStep last resolution.arguments) (retriesLeft settings last) 0
          (gateways.resolve first steps).delay (others.resolve last seen).delay
        have lengths := congrArg List.length repeated
        have answers := Call.answer_eq_of_untimed final
        rw [retriesLeft_eq same last] at repeated final lengths answers
        simp only [List.length_map] at lengths
        simp only [untimed, actions, count, retries, retriesLeft_eq same last, List.map_append,
          List.map_cons, List.map_nil, repeated, final, lengths, answers]
      · simp only [untimed, count, List.map_nil]

/-- A turn depends on the resolved arguments and on the answers, whatever takes how long. -/
theorem take_untimed (same : SameAnswers settings other gateways others) {seen : List Step}
    (resolved : (gateways.resolve step steps).value = (others.resolve step seen).value) :
    (take settings gateways steps step).untimed = (take other others seen step).untimed := by
  rw [take_of_like same resolved rfl rfl rfl]
  exact with_step_eq step_take

/-- Turns that differ in times only have records that differ in times only. -/
theorem record?_untimed {first second : Turn} (same : first.untimed = second.untimed)
    (start later : Timestamp) :
    (first.record? start).map StepRecord.untimed =
      (second.record? later).map StepRecord.untimed := by
  simp only [record?, step_eq_of_untimed same, ending_eq_of_untimed same]
  cases second.ending with
  | broken message => rfl
  | settled answer retryCount attempts => cases answer <;> rfl

/-! ## Calls -/

/-- All calls that a step repeats ask for the same action, and so does the last one. -/
theorem action_of_callsFrom (settings : Settings) (gateways : Gateways) (action : Action)
    (retries before now : Nat) :
    (∀ call ∈ (callsFrom settings gateways action retries before now).1, call.action = action) ∧
      (callsFrom settings gateways action retries before now).2.action = action := by
  induction retries generalizing before now with
  | zero => exact ⟨fun call member => absurd member List.not_mem_nil, rfl⟩
  | succ retries ih =>
      simp only [callsFrom]
      cases (callAt settings gateways action before now).answer with
      | success content => exact ⟨fun call member => absurd member List.not_mem_nil, rfl⟩
      | failure message =>
          obtain ⟨repeated, last⟩ := ih (before + 1)
            ((callAt settings gateways action before now).endsAt +
              (settings.retryBackoff (UInt32.ofNat before)).toNat)
          refine ⟨?_, last⟩
          intro call member
          cases List.mem_cons.1 member with
          | inl isFirst => exact isFirst ▸ rfl
          | inr later => exact repeated call later

section Resolved

variable {resolution : Resolution}
  (resolves : (gateways.resolve step steps).value = .ok resolution)

include resolves

/-- Where nothing is missing the tool is called, every time with the resolved arguments. -/
theorem take_of_complete (settings : Settings) (complete : resolution.missing = []) :
    (take settings gateways steps step).calls ≠ [] ∧
      ∀ call ∈ (take settings gateways steps step).calls,
        call.action = Action.ofStep step resolution.arguments := by
  have isComplete : resolution.isComplete = true := List.isEmpty_iff.2 complete
  obtain ⟨repeated, last⟩ := action_of_callsFrom settings gateways
    (Action.ofStep step resolution.arguments) (retriesLeft settings step) 0
    (gateways.resolve step steps).delay
  simp only [take, resolves, isComplete, if_true]
  constructor
  · simp
  · intro call member
    cases List.mem_append.1 member with
    | inl isRepeated => exact repeated call isRepeated
    | inr isLast => exact List.mem_singleton.1 isLast ▸ last

/-- Where something is missing the tool is not called, and the step fails for what is missing. -/
theorem take_of_missing (settings : Settings) (missing : resolution.missing ≠ []) :
    (take settings gateways steps step).calls = [] ∧
      (take settings gateways steps step).ending =
        .settled (.missingInputs resolution.missing) step.retryCount 0 := by
  have incomplete : resolution.isComplete = false := by simpa [Resolution.isComplete] using missing
  simp [take, resolves, incomplete]

end Resolved

/-! ## The step after its turn -/

/-- The step of a turn after the turn. -/
def marked (turn : Turn) : Step :=
  mark turn.ending turn.step

@[simp] theorem id_mark (ending : Ending) (step : Step) : (mark ending step).id = step.id := by
  unfold mark
  split <;> rfl

@[simp] theorem dependencies_mark (ending : Ending) (step : Step) :
    (mark ending step).dependencies = step.dependencies := by
  unfold mark
  split <;> rfl

@[simp] theorem id_marked (turn : Turn) : turn.marked.id = turn.step.id :=
  id_mark turn.ending turn.step

theorem marked_eq_of_untimed {first second : Turn} (same : first.untimed = second.untimed) :
    first.marked = second.marked := by
  rw [marked, marked, step_eq_of_untimed same, ending_eq_of_untimed same]

/-- A turn that was not broken off. -/
def Settled (turn : Turn) : Prop :=
  turn.error? = none

theorem not_settled_of_error {error : RunError} (broke : turn.error? = some error) :
    ¬turn.Settled := by
  rw [Settled, broke]
  exact Option.some_ne_none error

/-- Only a resolver that breaks down breaks a turn off. -/
theorem settled_take {resolution : Resolution}
    (resolves : (gateways.resolve step steps).value = .ok resolution) :
    (take settings gateways steps step).Settled := by
  unfold Settled take
  simp only [resolves]
  cases resolution.isComplete <;> rfl

/-- A turn is broken off if the resolver breaks down. -/
theorem error?_take {message : String}
    (breaks : (gateways.resolve step steps).value = .error message) :
    (take settings gateways steps step).error? = some (.resolver step.id message) := by
  simp [error?, take, breaks]

theorem not_settled_take_iff :
    ¬(take settings gateways steps step).Settled ↔
      ∃ message, (gateways.resolve step steps).value = .error message := by
  cases resolved : (gateways.resolve step steps).value with
  | error message =>
      exact iff_of_true (not_settled_of_error (error?_take resolved)) ⟨message, rfl⟩
  | ok resolution =>
      refine iff_of_false (fun broken => broken (settled_take resolved)) ?_
      rintro ⟨message, breaks⟩
      contradiction

/-- The arguments of a turn that was not broken off were resolved by filling in the templates. -/
theorem resolve_of_settled {input : String} (templates : gateways.UsesTemplatesOrBreaks input)
    (settled : (take settings gateways steps step).Settled) :
    (gateways.resolve step steps).value =
      .ok (Template.resolve steps input step.arguments) := by
  rcases templates step steps with resolved | breaks
  · exact resolved
  · exact absurd settled (not_settled_take_iff.2 breaks)

/-- A step whose turn was broken off is as it was. -/
theorem marked_of_not_settled (broken : ¬turn.Settled) : turn.marked = turn.step := by
  unfold Settled error? at broken
  unfold marked mark
  cases ending : turn.ending with
  | broken message => rfl
  | settled answer retryCount attempts => simp [ending] at broken

/-- A step that had its turn succeeded or failed. -/
theorem status_marked (settled : turn.Settled) :
    turn.marked.status = .succeeded ∨ turn.marked.status = .failed := by
  unfold Settled error? at settled
  unfold marked mark
  cases ending : turn.ending with
  | broken message => simp [ending] at settled
  | settled answer retryCount attempts => cases answer <;> simp

/-- A turn that was not broken off has a record that names its step. -/
theorem stepId_record? (settled : turn.Settled) (start : Timestamp) :
    (turn.record? start).map (·.stepId) = some turn.step.id := by
  unfold Settled error? at settled
  unfold record?
  cases ending : turn.ending with
  | broken message => simp [ending] at settled
  | settled answer retryCount attempts => rfl

theorem stepIds_filterMap_record? {turns : List Turn} (settled : ∀ turn ∈ turns, turn.Settled)
    (start : Timestamp) :
    (turns.filterMap (·.record? start)).map (·.stepId) = turns.map (·.step.id) := by
  rw [List.map_filterMap,
    List.filterMap_congr fun turn member => stepId_record? (settled turn member) start,
    List.filterMap_eq_map']

end Turn

end PlanRunner
