import PlanRunner.Proofs.Wire.Records
import PlanRunner.Wire.Answer

/-!
# Answers and actions that are read back

An answer is taken apart twice: its fields are read as they are, and what they hold is written as a
document for the reader of its kind. Either way the content is fit for its place, so that the answer
is read back once it is written.
-/

namespace PlanRunner

variable {room : Nat} {origin : Origin} {document : Document}

namespace Answer

/-- The content of an answer is fit for a place with so much room. -/
def Within (room : Nat) : Answer → Prop
  | .success content => Json.Fits room content
  | .failure _ => True

variable {answer : Answer}

theorem restores (within : answer.Within room) :
    read.Restores (room + 1) answer.toJson answer := by
  cases answer with
  | success content =>
      have shallow : Json.depth (.string "tool_result") ≤ room := Nat.zero_le _
      refine ⟨Json.depth_object_le (by simpa using ⟨shallow, within.2⟩), fun origin => ?_⟩
      have entries : readEntries [("type", .string "tool_result"), ("content", .ofJson content)]
          none [] = .ok (some .toolResult, [("content", content)]) := by
        have free := (Reader.restores_free within).recovers .value
        simp [readEntries, Kind.read, Kind.named, free, bind, Except.bind]
      have content : (record .toolResult).read.Restores (room + 1)
          (.object [("content", content)]) (.success content) :=
        Record.restores_of_fills (by decide) (.cons (Reader.restores_free within) (.nil _))
      have found := content.recovers .value
      simp only [Document.ofJson, Document.ofFields] at found
      simp [read, toJson, Document.ofJson, Document.ofFields, entries, found, bind, Except.bind]
  | failure message =>
      have shallow : ∀ text, Json.depth (.string text) ≤ room := fun _ => Nat.zero_le _
      exact ⟨Json.depth_object_le (by simpa using ⟨shallow _, shallow _⟩), fun _ => rfl⟩

/-- The fields of an answer are fit for their places whatever they hold. -/
theorem fits_of_readEntries {documents : List (String × Document)} {kind last : Option Kind}
    {entries found : List (String × Json)} (shallow : Document.depthFields documents ≤ room)
    (fits : ∀ entry ∈ entries, Json.Fits room entry.2)
    (read : readEntries documents kind entries = .ok (last, found)) :
    ∀ entry ∈ found, Json.Fits room entry.2 := by
  induction documents generalizing kind entries with
  | nil =>
      cases read
      exact fits
  | cons document rest ih =>
      obtain ⟨key, document⟩ := document
      obtain ⟨here, later⟩ := Nat.max_le.1 shallow
      rw [readEntries] at read
      by_cases isType : key = "type"
      · rw [if_pos isType] at read
        by_cases repeated : kind.isSome
        · rw [if_pos repeated] at read
          contradiction
        · rw [if_neg repeated] at read
          obtain ⟨kind, -, read⟩ := exists_of_bind_eq_ok read
          exact ih later fits read
      · rw [if_neg isType] at read
        obtain ⟨value, valueRead, read⟩ := exists_of_bind_eq_ok read
        refine ih later (fun entry member => ?_) read
        rcases List.mem_append.1 member with old | new
        · exact fits entry old
        · rw [List.mem_singleton.1 new]
          exact Reader.fits_of_free here valueRead

/-- What is read as an answer of some kind is fit for its place. -/
theorem within_of_record {kind : Kind} (shallow : document.depth ≤ room + 1)
    (read : (record kind).read origin document = .ok answer) : answer.Within room := by
  have keeps : (record kind).Keeps origin room (Within room) := by
    cases kind with
    | toolResult =>
        simp only [Record.Keeps, record, List.forall_mem_singleton]
        exact Field.keeps_of fun _ _ _ shallow read _ => Reader.fits_of_free shallow read
    | error =>
        simp only [Record.Keeps, record, List.forall_mem_singleton]
        exact Field.keeps_of_store fun _ _ _ => trivial
  have start : (record kind).draft.Within room := by
    cases kind with
    | toolResult => exact Json.fits_null
    | error => trivial
  exact keeps.read start shallow read

theorem within_of_readItems {kind : Kind} {items : List Json}
    (fits : ∀ item ∈ items, Json.Fits room item) (read : readItems kind items = .ok answer) :
    answer.Within room := by
  match items with
  | [] => contradiction
  | [item] =>
      have followed : (Document.ofJson (.array [item])).depth ≤ room + 1 := by
        rw [Document.depth_ofJson]
        exact Json.depth_array_le fun item member => (fits item member).2
      exact within_of_record followed read
  | _ :: _ :: _ =>
      obtain ⟨-, -, rest⟩ := exists_of_bind_eq_ok read
      contradiction

theorem within_of_read (shallow : document.depth ≤ room + 1)
    (accepted : read origin document = .ok answer) : answer.Within room := by
  cases document with
  | object documents breach =>
      obtain ⟨⟨kind, entries⟩, taken, rest⟩ := exists_of_bind_eq_ok accepted
      have fits : ∀ entry ∈ entries, Json.Fits room entry.2 :=
        fits_of_readEntries (Nat.le_of_succ_le_succ shallow) (by simp) taken
      have followed : (Document.ofJson (.object entries)).depth ≤ room + 1 := by
        rw [Document.depth_ofJson]
        exact Json.depth_object_le fun entry member => (fits entry member).2
      cases breach with
      | some breach => contradiction
      | none =>
          cases kind with
          | none => contradiction
          | some kind => exact within_of_record followed rest
  | array documents breach =>
      cases documents with
      | nil => cases breach <;> contradiction
      | cons first others =>
          obtain ⟨-, followed⟩ := Nat.max_le.1 (Nat.le_of_succ_le_succ shallow)
          obtain ⟨kind, -, rest⟩ := exists_of_bind_eq_ok accepted
          obtain ⟨items, taken, rest⟩ := exists_of_bind_eq_ok rest
          have fits : ∀ item ∈ items, Json.Fits room item :=
            Reader.forall_of_items (fun _ _ => Reader.fits_of_free) followed taken
          cases breach with
          | some breach => contradiction
          | none => exact within_of_readItems fits rest
  | null | boolean _ | number _ | string _ | unreadable _ _ | severed _ => contradiction

theorem isStable_read : read.IsStable (room + 1) toJson :=
  fun _ _ _ shallow accepted => restores (within_of_read shallow accepted)

end Answer

namespace Action

theorem isStable_read : read.IsStable (room + 1) toJson := by
  intro origin document action shallow accepted
  have keeps : record.Keeps origin room fun action => Json.Fits room action.arguments := by
    simp only [Record.Keeps, record, List.forall_mem_cons]
    exact ⟨Field.keeps_of_store fun _ _ same => same, Field.keeps_of_store fun _ _ same => same,
      Field.keeps_of_store fun _ _ same => same,
      Field.keeps_of fun _ _ _ shallow read _ => Reader.fits_of_free shallow read, by simp⟩
  have fits : Json.Fits room action.arguments := keeps.read Json.fits_null shallow accepted
  refine Record.restores_of_fills (by decide) ?_
  exact .cons (Reader.restores_text action.stepId) <|
    .cons (Reader.restores_text action.actionType) <|
    .cons (Reader.restores_text action.tool) <|
    .cons (Reader.restores_free fits) <|
    .nil _

end Action

end PlanRunner
