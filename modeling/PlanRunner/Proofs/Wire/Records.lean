import Mathlib.Data.List.Nodup
import PlanRunner.Proofs.Json.Documents
import PlanRunner.Wire.Choice
import PlanRunner.Wire.Record
import PlanRunner.Wire.Writer

/-!
# Records that are read back

What a writer makes of a value is read back as the value, and it is nested no more deeply than there
is room for. A record whose fields are all written, each under its name, is read back field by
field. Apart from that, whatever every field keeps while it is filled in holds of the record that is
read.
-/

namespace PlanRunner

variable {α β : Type}

/-! ## Written values -/

namespace Json

variable {room : Nat} {items : List Json} {fields : List (String × Json)}

theorem fits_null : Fits room .null := ⟨trivial, Nat.zero_le _⟩

theorem string_ne_null (text : String) : string text ≠ .null := by
  simp

theorem word32_ne_null (value : UInt32) : Writer.word32 value ≠ .null := by
  simp [Writer.word32]

theorem object_ne_null (fields : List (String × Json)) : object fields ≠ .null := by
  simp

theorem depth_array_le (shallow : ∀ item ∈ items, item.depth ≤ room) :
    (array items).depth ≤ room + 1 :=
  Nat.succ_le_succ (depthItems_le_iff.2 shallow)

theorem depth_object_le (shallow : ∀ field ∈ fields, field.2.depth ≤ room) :
    (object fields).depth ≤ room + 1 :=
  Nat.succ_le_succ (depthFields_le_iff.2 shallow)

theorem readsBack_word32 (value : UInt32) : (Writer.word32 value).ReadsBack :=
  Number.readsBack_integer _ _

theorem readsBack_word64 (value : UInt64) : (Writer.word64 value).ReadsBack :=
  Number.readsBack_integer _ _

theorem readsBack_list {write : α → Json} {values : List α}
    (readsBack : ∀ value ∈ values, (write value).ReadsBack) :
    (Writer.list write values).ReadsBack := by
  refine readsBackItems_iff.2 fun item member => ?_
  obtain ⟨value, known, rfl⟩ := List.mem_map.1 member
  exact readsBack value known

theorem readsBack_texts (texts : List String) : (Writer.texts texts).ReadsBack :=
  readsBack_list fun _ _ => trivial

theorem readsBack_optional {write : α → Json} {content : Option α}
    (readsBack : ∀ value ∈ content, (write value).ReadsBack) :
    (Writer.optional write content).ReadsBack := by
  cases content with
  | none => trivial
  | some value => exact readsBack value rfl

end Json

/-! ## Readers and writers -/

namespace Reader

/-- A reader reads a written value back. -/
def Recovers (reader : Reader α) (written : Json) (value : α) : Prop :=
  ∀ origin, reader origin (.ofJson written) = .ok value

/-- A reader reads a written value back, and there is room for it. -/
structure Restores (reader : Reader α) (room : Nat) (written : Json) (value : α) : Prop where
  depth_le : written.depth ≤ room
  recovers : reader.Recovers written value

variable {room : Nat} {reader : Reader α} {write : α → Json}

theorem restores_text (value : String) : text.Restores room (.string value) value :=
  ⟨Nat.zero_le _, fun _ => rfl⟩

theorem restores_flag (value : Bool) : flag.Restores room (.boolean value) value :=
  ⟨Nat.zero_le _, fun _ => rfl⟩

theorem restores_free {value : Json} (fits : Json.Fits room value) :
    free.Restores room value value := by
  refine ⟨fits.2, fun origin => ?_⟩
  simp [free, Document.toJson_ofJson value fits.1]

theorem natural_integer {bound value : Nat} (small : value < bound) (expected : String)
    (origin : Origin)
    (bounds : -0x8000000000000000 ≤ (value : Int) ∧ (value : Int) < 0x10000000000000000) :
    natural bound expected origin (.number (.integer value bounds)) = .ok value := by
  have inside : 0 ≤ (value : Int) ∧ (value : Int) < bound := by omega
  simp only [natural, if_pos inside, Int.toNat_natCast]

theorem restores_word32 (value : UInt32) : word32.Restores room (Writer.word32 value) value := by
  refine ⟨Nat.zero_le _, fun origin => ?_⟩
  have read : natural 0x100000000 "u32" origin (.ofJson (Writer.word32 value)) =
      .ok value.toNat := natural_integer value.toNat_lt _ _ _
  rw [word32, read, Except.map, UInt32.ofNat_toNat]

theorem natural_word64 (value : UInt64) (expected : String) (origin : Origin) :
    natural 0x10000000000000000 expected origin (.ofJson (Writer.word64 value)) =
      .ok value.toNat :=
  natural_integer value.toNat_lt _ _ _

theorem restores_word64 (value : UInt64) : word64.Restores room (Writer.word64 value) value := by
  refine ⟨Nat.zero_le _, fun origin => ?_⟩
  rw [word64, natural_word64, Except.map, UInt64.ofNat_toNat]

theorem restores_size (value : UInt64) : size.Restores room (Writer.word64 value) value := by
  refine ⟨Nat.zero_le _, fun origin => ?_⟩
  rw [size, natural_word64, Except.map, UInt64.ofNat_toNat]

/-- A chosen value is read back by its name. -/
theorem restores_choice {choice : Choice α} {name : String} {value : α}
    (known : choice.lookup name = some value) :
    choice.read.Restores room (.string name) value := by
  refine ⟨Nat.zero_le _, fun origin => ?_⟩
  simp only [Document.ofJson, Choice.read, Choice.named, known]

theorem restores_optional_none :
    (optional reader).Restores room (Writer.optional write none) none :=
  ⟨Nat.zero_le _, fun _ => rfl⟩

/-- A value that is there is read back, unless it is written as null. -/
theorem restores_optional_some {value : α} (notNull : write value ≠ .null)
    (restores : reader.Restores room (write value) value) :
    (optional reader).Restores room (Writer.optional write (some value)) (some value) := by
  refine ⟨restores.depth_le, fun origin => ?_⟩
  have read := restores.recovers origin
  cases written : write value with
  | null => exact absurd written notNull
  | boolean _ | number _ | string _ | array _ | object _ =>
      rw [written] at read
      simp only [Writer.optional, written, Document.ofJson, optional] at read ⊢
      rw [read]
      rfl

theorem restores_optional (notNull : ∀ value, write value ≠ .null) {content : Option α}
    (restores : ∀ value ∈ content, reader.Restores room (write value) value) :
    (optional reader).Restores room (Writer.optional write content) content := by
  cases content with
  | none => exact restores_optional_none
  | some value => exact restores_optional_some (notNull value) (restores value rfl)

/-- A free value that may be missing is read back, unless it is null. -/
theorem restores_optional_free {content : Option Json}
    (fits : ∀ value ∈ content, Json.Fits room value) :
    (optional free).Restores room (Writer.optional (fun value => value) content)
      (content.filter (· ≠ .null)) := by
  cases content with
  | none => exact restores_optional_none
  | some value =>
      by_cases isNull : value = .null
      · subst isNull
        exact ⟨Nat.zero_le _, fun _ => rfl⟩
      · have kept : (some value).filter (· ≠ .null) = some value :=
          Option.filter_some_pos (by simpa using isNull)
        rw [kept]
        exact restores_optional_some isNull (restores_free (fits value rfl))

/-- The items of a list are read back with the same change as each of them. -/
theorem restores_list_map {change : α → α} {values : List α}
    (restores : ∀ value ∈ values, reader.Restores room (write value) (change value)) :
    (list reader).Restores (room + 1) (Writer.list write values) (values.map change) := by
  refine ⟨Json.depth_array_le fun item member => ?_, fun origin => ?_⟩
  · obtain ⟨value, known, rfl⟩ := List.mem_map.1 member
    exact (restores value known).depth_le
  · have read : items reader origin (Document.ofItems (values.map write)) =
        .ok (values.map change) := by
      induction values with
      | nil => rfl
      | cons value rest ih =>
          have first := (restores value List.mem_cons_self).recovers origin
          have later := ih fun other member => restores other (List.mem_cons_of_mem _ member)
          simp [Document.ofItems, items, first, later, bind, Except.bind, pure, Except.pure]
    simp [list, Writer.list, Document.ofJson, read, bind, Except.bind, pure, Except.pure]

theorem restores_list {values : List α}
    (restores : ∀ value ∈ values, reader.Restores room (write value) value) :
    (list reader).Restores (room + 1) (Writer.list write values) values := by
  have same : (list reader).Restores (room + 1) (Writer.list write values) (values.map id) :=
    restores_list_map restores
  rwa [List.map_id] at same

theorem restores_texts (values : List String) :
    (list text).Restores (room + 1) (Writer.texts values) values :=
  restores_list fun value _ => restores_text value

theorem restores_idSet (set : IdSet) : idSet.Restores (room + 1) (Writer.idSet set) set := by
  obtain ⟨shallow, recovers⟩ := restores_texts set.ids
  refine ⟨shallow, fun origin => ?_⟩
  have same : IdSet.ofList set.ids = set :=
    IdSet.ext_members fun id => by simp
  rw [idSet, Writer.idSet, recovers origin, Except.map, same]

/-- The text of a written value is read back if a reader can follow it. -/
theorem Restores.ofText {written : Json} {value : α}
    (restores : reader.Restores Document.nestingLimit written value)
    (readsBack : written.ReadsBack) : ofText reader written.compact = .ok value := by
  simp only [Reader.ofText, Document.ofText_compact readsBack restores.depth_le,
    restores.recovers .text]
  rfl

/-! ### What a reader gives -/

section Given

variable {reader : Reader α} {origin : Origin} {document : Document} {documents : List Document}
  {room : Nat} {holds : α → Prop} {content : Option α} {values : List α}

/-- What is read from a text is read from its document, which can be followed. -/
theorem exists_of_ofText {text : String} {value : α} (read : ofText reader text = .ok value) :
    ∃ document, Document.ofText text = (document, none) ∧
      document.depth ≤ Document.nestingLimit ∧ reader .text document = .ok value := by
  have shallow := Document.depth_ofText_le text
  unfold ofText at read
  rcases whole : Document.ofText text with ⟨document, behind⟩
  rw [whole] at shallow read
  obtain ⟨found, parsed, rest⟩ := exists_of_bind_eq_ok read
  cases behind with
  | some fault => contradiction
  | none =>
      cases rest
      exact ⟨document, rfl, shallow, parsed⟩

theorem toJson_of_free {value : Json} (read : free origin document = .ok value) :
    document.toJson = .ok value := by
  unfold free at read
  split at read
  · rename_i found parsed
    cases read
    exact parsed
  · contradiction

/-- A value that was read is normal and no more deeply nested than its document. -/
theorem fits_of_free {value : Json} (shallow : document.depth ≤ room)
    (read : free origin document = .ok value) : Json.Fits room value :=
  (Document.fits_toJson document value (toJson_of_free read)).mono shallow

theorem forall_of_optional (kept : ∀ value, reader origin document = .ok value → holds value)
    (read : optional reader origin document = .ok content) : ∀ value ∈ content, holds value := by
  unfold optional at read
  split at read
  · cases read
    exact nofun
  · obtain ⟨found, parsed, rfl⟩ := exists_of_map_eq_ok read
    rintro value ⟨⟩
    exact kept found parsed

theorem forall_of_items (kept : ∀ document value, document.depth ≤ room →
      reader origin document = .ok value → holds value)
    (shallow : Document.depthItems documents ≤ room)
    (read : items reader origin documents = .ok values) : ∀ value ∈ values, holds value := by
  induction documents generalizing values with
  | nil =>
      cases read
      exact nofun
  | cons document rest ih =>
      obtain ⟨here, later⟩ := Nat.max_le.1 shallow
      obtain ⟨first, firstRead, read⟩ := exists_of_bind_eq_ok read
      obtain ⟨others, othersRead, read⟩ := exists_of_bind_eq_ok read
      cases read
      intro value member
      rcases List.mem_cons.1 member with rfl | member
      · exact kept document value here firstRead
      · exact ih later othersRead value member

theorem forall_of_list (kept : ∀ document value, document.depth ≤ room →
      reader origin document = .ok value → holds value)
    (shallow : document.depth ≤ room + 1) (read : list reader origin document = .ok values) :
    ∀ value ∈ values, holds value := by
  cases document with
  | array documents breach =>
      obtain ⟨found, itemsRead, rest⟩ := exists_of_bind_eq_ok read
      have all := forall_of_items kept (Nat.le_of_succ_le_succ shallow) itemsRead
      cases breach with
      | some breach => contradiction
      | none =>
          cases rest
          exact all
  | null | boolean _ | number _ | string _ | object _ _ | unreadable _ _ | severed _ =>
      contradiction

/-- A value that may be missing is not read as null. -/
theorem ne_null_of_optional_free {content : Option Json}
    (read : optional free origin document = .ok content) : content ≠ some .null := by
  rintro rfl
  unfold optional at read
  split at read
  · contradiction
  · rename_i notNull
    obtain ⟨value, parsed, same⟩ := exists_of_map_eq_ok read
    cases same
    exact notNull (Document.eq_null_of_toJson (toJson_of_free parsed))

end Given

/-! ### What is read back as it was read -/

/-- Whatever a reader makes of a document with so much room is read back once it is written. -/
def IsStable (reader : Reader α) (room : Nat) (write : α → Json) : Prop :=
  ∀ origin document value, document.depth ≤ room → reader origin document = .ok value →
    reader.Restores room (write value) value

theorem isStable_optional_free :
    (optional free).IsStable room (Writer.optional fun value => value) := by
  intro origin document content shallow read
  have fits : ∀ value ∈ content, Json.Fits room value :=
    forall_of_optional (fun _ => fits_of_free shallow) read
  cases content with
  | none => exact restores_optional_none
  | some value =>
      have notNull : value ≠ .null := by
        rintro rfl
        exact ne_null_of_optional_free read rfl
      exact restores_optional_some notNull (restores_free (fits value rfl))

end Reader

/-! ## Records -/

theorem Field.find?_name {fields : List (Field α)} {field : Field α}
    (distinct : (fields.map (·.name)).Nodup) (member : field ∈ fields) :
    fields.find? (·.name == field.name) = some field := by
  induction fields with
  | nil => contradiction
  | cons first rest ih =>
      rw [List.map_cons, List.nodup_cons] at distinct
      rcases List.mem_cons.1 member with rfl | later
      · simp
      · have other : first.name ≠ field.name := by
          intro same
          exact distinct.1 (same ▸ List.mem_map_of_mem later)
        rw [List.find?_cons_of_neg (by simpa using other)]
        exact ih distinct.2 later

/-- A field keeps a property while it takes in what is not nested too deeply. -/
def Field.Keeps (origin : Origin) (room : Nat) (holds : α → Prop) (field : Field α) : Prop :=
  ∀ document draft next, document.depth ≤ room → field.fill origin document draft = .ok next →
    holds draft → holds next

section Fields

variable {origin : Origin} {room : Nat} {holds : α → Prop} {name : String} {presence : Presence}
  {reader : Reader β} {store : α → β → α}

/-- A field takes in what its reader makes of the document. -/
theorem Field.fill_of {document : Document} {value : β} (draft : α)
    (read : reader origin document = .ok value) :
    (Field.of name presence reader store).fill origin document draft = .ok (store draft value) := by
  simp only [Field.of, read, Except.map]

/-- A field keeps what holds whatever its reader makes of such a document. -/
theorem Field.keeps_of (kept : ∀ document draft value, document.depth ≤ room →
      reader origin document = .ok value → holds draft → holds (store draft value)) :
    (Field.of name presence reader store).Keeps origin room holds := by
  intro document draft next shallow filled held
  obtain ⟨value, read, rfl⟩ := exists_of_map_eq_ok filled
  exact kept document draft value shallow read held

/-- A field keeps what holds whatever is stored in it. -/
theorem Field.keeps_of_store (kept : ∀ draft value, holds draft → holds (store draft value)) :
    (Field.of name presence reader store).Keeps origin room holds :=
  keeps_of fun _ draft value _ _ => kept draft value

end Fields

namespace Record

variable {record : Record α} {origin : Origin} {room : Nat} {draft last value : α}
  {fields : List (Field α)} {entries : List (String × Json)} {seen : List String}

/-- Fields that read written values back and take them into a draft one after the other. -/
inductive Fills (room : Nat) : List (Field α) → List (String × Json) → α → α → Prop where
  | nil (draft : α) : Fills room [] [] draft draft
  | cons {β : Type} {name : String} {presence : Presence} {reader : Reader β} {store : α → β → α}
      {value : β} {written : Json} {fields : List (Field α)} {entries : List (String × Json)}
      {draft last : α} (restores : reader.Restores room written value)
      (later : Fills room fields entries (store draft value) last) :
      Fills room (.of name presence reader store :: fields) ((name, written) :: entries) draft last

theorem Fills.depth_le (fills : Fills room fields entries draft last) :
    ∀ entry ∈ entries, entry.2.depth ≤ room := by
  induction fills with
  | nil draft => exact nofun
  | cons restores later ih => exact List.forall_mem_cons.2 ⟨restores.depth_le, ih⟩

/-- Written fields are filled in if each of them stands there once. -/
theorem fillFields_of_fills (distinct : (record.fields.map (·.name)).Nodup)
    (fills : Fills room fields entries draft last) (part : fields ⊆ record.fields)
    (once : (fields.map (·.name)).Nodup) (fresh : ∀ field ∈ fields, field.name ∉ seen) :
    record.fillFields origin (Document.ofFields entries) draft seen =
      .ok (last, (fields.map (·.name)).reverse ++ seen) := by
  induction fills generalizing seen with
  | nil draft => rfl
  | @cons β name presence reader store value written fields entries draft last restores later ih =>
      rw [List.map_cons, List.nodup_cons] at once
      have found : record.fields.find? (·.name == name) = some (.of name presence reader store) :=
        Field.find?_name distinct (part List.mem_cons_self)
      have unseen : name ∉ seen := fresh _ List.mem_cons_self
      have fill := restores.recovers origin
      have freshLater : ∀ other ∈ fields, other.name ∉ name :: seen := by
        intro other member
        have different : other.name ≠ name := by
          intro same
          exact once.1 (List.mem_map.2 ⟨other, member, same⟩)
        simpa [different] using fresh other (List.mem_cons_of_mem _ member)
      have rest := ih (fun _ member => part (List.mem_cons_of_mem _ member)) once.2 freshLater
      simp [Document.ofFields, fillFields, found, unseen, Field.of, Except.map, fill, rest, bind,
        Except.bind]

/-- A record is read back if all its fields are written in order. -/
theorem restores_of_fills (distinct : (record.fields.map (·.name)).Nodup)
    (fills : Fills room record.fields entries record.draft value) :
    Reader.Restores record.read (room + 1) (.object entries) value := by
  refine ⟨Json.depth_object_le fills.depth_le, fun origin => ?_⟩
  have filled : record.fillFields origin (Document.ofFields entries) record.draft [] =
      .ok (value, (record.fields.map (·.name)).reverse ++ []) :=
    fillFields_of_fills distinct fills (List.Subset.refl _) distinct (by simp)
  have complete : record.missing? (record.fields.map (·.name)).reverse = none := by
    rw [missing?, Option.map_eq_none_iff, List.find?_eq_none]
    intro field member
    have seen : field.name ∈ (record.fields.map (·.name)).reverse :=
      List.mem_reverse.2 (List.mem_map_of_mem member)
    simp [seen]
  rw [List.append_nil] at filled
  simp [read, Document.ofJson, filled, complete, bind, Except.bind, pure, Except.pure]

/-! ## What every field keeps -/

section Keeps

variable {holds : α → Prop} {document : Document}

/-- Every field of a record keeps a property. -/
def Keeps (record : Record α) (origin : Origin) (room : Nat) (holds : α → Prop) : Prop :=
  ∀ field ∈ record.fields, field.Keeps origin room holds

/-- What is kept by the fields that were not there before holds after they are filled in. -/
theorem fillFields_keeps {entries : List (String × Document)} {found : List String}
    (keeps : ∀ field ∈ record.fields, field.name ∉ seen → field.Keeps origin room holds)
    (shallow : Document.depthFields entries ≤ room) (start : holds draft)
    (filled : record.fillFields origin entries draft seen = .ok (value, found)) : holds value := by
  induction entries generalizing draft seen with
  | nil =>
      cases filled
      exact start
  | cons entry rest ih =>
      obtain ⟨key, document⟩ := entry
      obtain ⟨here, later⟩ := Nat.max_le.1 shallow
      rw [Record.fillFields] at filled
      split at filled
      · rename_i field known
        by_cases repeated : key ∈ seen
        · rw [if_pos repeated] at filled
          contradiction
        · rw [if_neg repeated] at filled
          obtain ⟨next, taken, filled⟩ := exists_of_bind_eq_ok filled
          have member : field ∈ record.fields := List.mem_of_find?_eq_some known
          have same : field.name = key := by simpa using List.find?_some known
          have kept := keeps field member (same ▸ repeated) document draft next here taken start
          refine ih (fun other known fresh => keeps other known fun old => ?_) later kept filled
          exact fresh (List.mem_cons_of_mem _ old)
      · obtain ⟨-, -, filled⟩ := exists_of_bind_eq_ok filled
        exact ih keeps later start filled

theorem fillItems_keeps {count index : Nat} {breach : Option Breach} {fields : List (Field α)}
    {documents : List Document} (keeps : ∀ field ∈ fields, field.Keeps origin room holds)
    (shallow : Document.depthItems documents ≤ room) (start : holds draft)
    (filled : record.fillItems origin count breach index fields documents draft = .ok value) :
    holds value := by
  induction fields generalizing index documents draft with
  | nil =>
      cases documents with
      | nil =>
          cases breach with
          | none =>
              cases filled
              exact start
          | some breach => contradiction
      | cons document rest => cases origin <;> contradiction
  | cons field fields ih =>
      obtain ⟨first, later⟩ := List.forall_mem_cons.1 keeps
      cases documents with
      | nil =>
          cases breach with
          | none =>
              rw [Record.fillItems] at filled
              by_cases isDefaulted : field.presence = .defaulted
              · rw [if_pos isDefaulted] at filled
                exact ih later shallow start filled
              · rw [if_neg isDefaulted] at filled
                contradiction
          | some breach => contradiction
      | cons document rest =>
          obtain ⟨here, shallowRest⟩ := Nat.max_le.1 shallow
          obtain ⟨next, taken, filled⟩ := exists_of_bind_eq_ok filled
          exact ih later shallowRest (first document draft next here taken start) filled

/-- What holds of the draft of a record and is kept by its fields holds of what is read. -/
theorem Keeps.read (keeps : record.Keeps origin room holds) (start : holds record.draft)
    (shallow : document.depth ≤ room + 1) (read : record.read origin document = .ok value) :
    holds value := by
  cases document with
  | object entries breach =>
      obtain ⟨⟨filled, found⟩, taken, rest⟩ := exists_of_bind_eq_ok read
      have kept := fillFields_keeps (fun field member _ => keeps field member)
        (Nat.le_of_succ_le_succ shallow) start taken
      cases breach with
      | some breach => contradiction
      | none =>
          cases missing : record.missing? found with
          | some name => simp [missing] at rest
          | none =>
              simp only [missing] at rest
              cases rest
              exact kept
  | array items breach =>
      exact fillItems_keeps keeps (Nat.le_of_succ_le_succ shallow) start read
  | null | boolean _ | number _ | string _ | unreadable _ _ | severed _ =>
      contradiction

end Keeps

end Record

end PlanRunner
