import PlanRunner.Proofs.Wire.Plans

/-!
# Keys that survive

The keys of metadata that the program does not know share an object with those that it does. What
stands last under such a key is what the metadata hold, wherever the metadata have been read from:
from an object of their own, or from the part of a plan that its field is read from.
-/

namespace PlanRunner

variable {origin : Origin} {document : Document}

/-! ## Parts of records -/

namespace Record

variable {α β : Type} {record : Record α} {own : Field α} {reader : Reader β} {part : α → β}
  {draft value : α}

/-- The part of a document that a field is read from: by its name, or by its place in an array. -/
def part? (record : Record α) (name : String) : Document → Option Document
  | .object entries _ => entries.lookup name
  | .array items _ => items[record.fields.findIdx (·.name == name)]?
  | _ => none

/-- A field is the only one of a record that has to do with a part of it. -/
structure Owns (record : Record α) (own : Field α) (reader : Reader β) (part : α → β) : Prop where
  distinct : (record.fields.map (·.name)).Nodup
  member : own ∈ record.fields
  fills : ∀ {origin document draft next}, own.fill origin document draft = .ok next →
    reader origin document = .ok (part next)
  others : ∀ field ∈ record.fields, field.name ≠ own.name → ∀ origin room kept,
    field.Keeps origin room (part · = kept)

/-- What a part of a record is after its field has met a document, or none. -/
def Takes (reader : Reader β) (origin : Origin) (before after : β) : Option Document → Prop
  | some document => reader origin document = .ok after
  | none => after = before

theorem Owns.fillFields (owns : record.Owns own reader part) {entries : List (String × Document)}
    {seen found : List String} (fresh : own.name ∉ seen)
    (filled : record.fillFields origin entries draft seen = .ok (value, found)) :
    Takes reader origin (part draft) (part value) (entries.lookup own.name) := by
  induction entries generalizing draft seen with
  | nil =>
      cases filled
      exact rfl
  | cons entry rest ih =>
      obtain ⟨key, document⟩ := entry
      rw [Record.fillFields] at filled
      by_cases isOwn : own.name = key
      · subst isOwn
        rw [Field.find?_name owns.distinct owns.member] at filled
        simp only [if_neg fresh] at filled
        obtain ⟨next, taken, filled⟩ := exists_of_bind_eq_ok filled
        -- The field can stand there once, so that the rest leaves its part alone.
        have spares : ∀ field ∈ record.fields, field.name ∉ own.name :: seen →
            field.Keeps origin (Document.depthFields rest) (part · = part next) := by
          intro field member unseen
          refine owns.others field member (fun same => ?_) origin _ _
          exact unseen (same ▸ List.mem_cons_self)
        have kept := fillFields_keeps spares (Nat.le_refl _) rfl filled
        rw [List.lookup_cons_self, Takes, kept]
        exact owns.fills taken
      · have elsewhere : ((key, document) :: rest).lookup own.name = rest.lookup own.name := by
          rw [List.lookup_cons, beq_false_of_ne isOwn]
        rw [elsewhere]
        split at filled
        · rename_i field known
          have same : field.name = key := by simpa using List.find?_some known
          by_cases repeated : key ∈ seen
          · rw [if_pos repeated] at filled
            contradiction
          · rw [if_neg repeated] at filled
            obtain ⟨next, taken, filled⟩ := exists_of_bind_eq_ok filled
            have kept : part next = part draft :=
              owns.others field (List.mem_of_find?_eq_some known) (by simp [same, Ne.symm isOwn])
                origin document.depth _ document draft next (Nat.le_refl _) taken rfl
            have later := ih (by simpa [isOwn] using fresh) filled
            rwa [kept] at later
        · obtain ⟨-, -, filled⟩ := exists_of_bind_eq_ok filled
          exact ih fresh filled

/-- Without items the draft stays as it is. -/
theorem fillItems_nil {count index : Nat} {breach : Option Breach} {fields : List (Field α)}
    (filled : record.fillItems origin count breach index fields [] draft = .ok value) :
    value = draft := by
  induction fields generalizing index with
  | nil =>
      cases breach with
      | none => exact (Except.ok.inj filled).symm
      | some breach => contradiction
  | cons field fields ih =>
      cases breach with
      | none =>
          rw [Record.fillItems] at filled
          by_cases isDefaulted : field.presence = .defaulted
          · rw [if_pos isDefaulted] at filled
            exact ih filled
          · rw [if_neg isDefaulted] at filled
            contradiction
      | some breach => contradiction

theorem Owns.fillItems (owns : record.Owns own reader part) {count index : Nat}
    {breach : Option Breach} {fields : List (Field α)} {documents : List Document}
    (member : own ∈ fields) (included : fields ⊆ record.fields)
    (distinct : (fields.map (·.name)).Nodup)
    (filled : record.fillItems origin count breach index fields documents draft = .ok value) :
    Takes reader origin (part draft) (part value)
      documents[fields.findIdx (·.name == own.name)]? := by
  induction fields generalizing index documents draft with
  | nil => contradiction
  | cons field fields ih =>
      rw [List.map_cons, List.nodup_cons] at distinct
      have later : fields ⊆ record.fields := fun _ known => included (List.mem_cons_of_mem _ known)
      cases documents with
      | nil => exact congrArg part (fillItems_nil filled)
      | cons document rest =>
          obtain ⟨next, taken, restFilled⟩ := exists_of_bind_eq_ok filled
          rcases List.mem_cons.1 member with rfl | behind
          · have spares : ∀ other ∈ fields,
                other.Keeps origin (Document.depthItems rest) (part · = part next) := by
              intro other known
              refine owns.others other (later known) (fun same => ?_) origin _ _
              exact distinct.1 (List.mem_map.2 ⟨other, known, same⟩)
            have kept := fillItems_keeps spares (Nat.le_refl _) rfl restFilled
            have first : (own :: fields).findIdx (·.name == own.name) = 0 := by
              simp [List.findIdx_cons]
            rw [first, List.getElem?_cons_zero, Takes, kept]
            exact owns.fills taken
          · have different : field.name ≠ own.name := fun same =>
              distinct.1 (same ▸ List.mem_map_of_mem behind)
            have kept : part next = part draft :=
              owns.others field (included List.mem_cons_self) different origin document.depth _
                document draft next (Nat.le_refl _) taken rfl
            have shifted : (field :: fields).findIdx (·.name == own.name) =
                fields.findIdx (·.name == own.name) + 1 := by
              rw [List.findIdx_cons, beq_false_of_ne different, cond_false]
            have restTaken := ih behind later distinct.2 restFilled
            rwa [shifted, List.getElem?_cons_succ, ← kept]

/-- A part of a record is what its field makes of its part of the document. -/
theorem Owns.read (owns : record.Owns own reader part)
    (accepted : record.read origin document = .ok value) :
    Takes reader origin (part record.draft) (part value) (record.part? own.name document) := by
  cases document with
  | object entries breach =>
      obtain ⟨⟨filled, found⟩, taken, rest⟩ := exists_of_bind_eq_ok accepted
      have takes := owns.fillFields (List.not_mem_nil) taken
      cases breach with
      | some breach => contradiction
      | none =>
          cases missing : record.missing? found with
          | some name => simp [missing] at rest
          | none =>
              simp only [missing] at rest
              cases rest
              exact takes
  | array items breach =>
      exact owns.fillItems owns.member (List.Subset.refl _) owns.distinct accepted
  | null | boolean _ | number _ | string _ | unreadable _ _ | severed _ => contradiction

end Record

/-! ## Keys of metadata -/

/-- The value of the last entry under a key. -/
def Document.latest? (key : String) : Document → Option (Except Fault Json)
  | .object entries _ => (entries.reverse.lookup key).map toJson
  | _ => none

namespace Metadata

variable {key : String}

theorem lookup_of_readEntries (unknown : key ∉ knownFields.map (·.name))
    {entries : List (String × Document)} {metadata last : Metadata} {seen : List String}
    (read : readEntries origin entries metadata seen = .ok last) :
    (last.extra.lookup key).map Except.ok =
      ((entries.reverse.lookup key).map Document.toJson).or
        ((metadata.extra.lookup key).map .ok) := by
  induction entries generalizing metadata seen with
  | nil =>
      cases read
      rfl
  | cons entry rest ih =>
      obtain ⟨first, document⟩ := entry
      rw [List.reverse_cons, List.lookup_append]
      rw [readEntries] at read
      split at read
      · rename_i field known
        have member := List.mem_of_find?_eq_some known
        have different : (key == first) = false := by
          have same : field.name = first := by simpa using List.find?_some known
          refine beq_false_of_ne fun isFirst => unknown ?_
          exact isFirst ▸ same ▸ List.mem_map_of_mem member
        by_cases repeated : first ∈ seen
        · rw [if_pos repeated] at read
          contradiction
        · rw [if_neg repeated] at read
          obtain ⟨next, filled, read⟩ := exists_of_bind_eq_ok read
          rw [ih read, extra_of_fill member filled, List.lookup_cons, different, List.lookup_nil,
            Option.or_none]
      · obtain ⟨value, valueRead, read⟩ := exists_of_bind_eq_ok read
        rw [ih read, Keyed.lookup_insert, List.lookup_cons, List.lookup_nil]
        by_cases isFirst : key = first
        · subst isFirst
          cases rest.reverse.lookup key <;> simp [Reader.toJson_of_free valueRead]
        · rw [if_neg isFirst, beq_false_of_ne isFirst, Option.or_none]

/-- What metadata hold under an unknown key is what stands last under it. -/
theorem latest?_of_read {metadata : Metadata} (unknown : key ∉ knownFields.map (·.name))
    (accepted : read origin document = .ok metadata) :
    document.latest? key = (metadata.extra.lookup key).map .ok := by
  cases document with
  | object entries breach =>
      obtain ⟨found, taken, rest⟩ := exists_of_bind_eq_ok accepted
      cases breach with
      | some breach => contradiction
      | none =>
          cases rest
          have looked := lookup_of_readEntries unknown taken
          rw [List.lookup_nil, Option.map_none, Option.or_none] at looked
          exact looked.symm
  | null | boolean _ | number _ | string _ | array _ _ | unreadable _ _ | severed _ =>
      contradiction

end Metadata

namespace Plan

/-- The metadata of a plan are read from the field for them only. -/
theorem owns_metadata : ∃ own : Field Plan, own.name = "metadata" ∧
    record.Owns own Metadata.read Plan.metadata := by
  refine ⟨_, ?_, by decide, .tail _ <| .tail _ <| .tail _ <| .tail _ <| .tail _ <| .tail _ <|
    .head _, ?_, ?_⟩
  · rfl
  · intro origin document draft next filled
    obtain ⟨metadata, read, rfl⟩ := exists_of_map_eq_ok filled
    exact read
  · simp only [record, List.forall_mem_cons]
    exact ⟨fun _ _ _ _ => Field.keeps_of_store fun _ _ same => same,
      fun _ _ _ _ => Field.keeps_of_store fun _ _ same => same,
      fun _ _ _ _ => Field.keeps_of_store fun _ _ same => same,
      fun _ _ _ _ => Field.keeps_of_store fun _ _ same => same,
      fun _ _ _ _ => Field.keeps_of_store fun _ _ same => same,
      fun _ _ _ _ => Field.keeps_of_store fun _ _ same => same,
      fun different => absurd rfl different, by simp⟩

/-- What the metadata of a plan hold under an unknown key is what stands last in their part. -/
theorem latest?_of_read {plan : Plan} {key : String}
    (unknown : key ∉ Metadata.knownFields.map (·.name))
    (accepted : read origin document = .ok plan) :
    (record.part? "metadata" document).bind (·.latest? key) =
      (plan.metadata.extra.lookup key).map .ok := by
  obtain ⟨own, name, owns⟩ := owns_metadata
  have takes := owns.read accepted
  rw [name] at takes
  cases found : record.part? "metadata" document with
  | none =>
      rw [found] at takes
      have empty : plan.metadata = {} := takes
      rw [empty]
      rfl
  | some part =>
      rw [found] at takes
      exact Metadata.latest?_of_read unknown takes

end Plan

end PlanRunner
