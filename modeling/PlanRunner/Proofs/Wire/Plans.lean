import PlanRunner.Proofs.Wire.Records
import PlanRunner.Wire.Plan

/-!
# Plans that are read back

A written plan is read back, except that a result of null is taken for no result. It takes that the
values in the plan are not nested too deeply for their places, and that their numbers are read back.
A plan that has been read from a text holds only values that are fit for their places and no result
that is null.
-/

namespace PlanRunner

/-! ## Values in plans -/

/-- A step without a result instead of one that is null. -/
def Step.forgetNull (step : Step) : Step :=
  { step with result := step.result.filter (· ≠ .null) }

/-- A plan without the results that are null. -/
def Plan.forgetNulls (plan : Plan) : Plan :=
  { plan with steps := plan.steps.map Step.forgetNull }

/-- The values that a step holds. -/
def Step.values (step : Step) : List Json :=
  step.arguments :: step.result.toList

/-- The values that a plan holds: in its steps, and under the keys of its metadata. -/
def Plan.values (plan : Plan) : List Json :=
  plan.steps.flatMap Step.values ++ plan.metadata.extra.map Prod.snd

/-- The values of a step are normal. -/
def Step.Normal (step : Step) : Prop :=
  ∀ value ∈ step.values, value.Normal

/-- The unknown entries of metadata are in key order, and their values are normal. -/
structure Metadata.Normal (metadata : Metadata) : Prop where
  sorted : Keyed.Sorted metadata.extra
  unknown : ∀ entry ∈ metadata.extra, entry.1 ∉ knownFields.map (·.name)
  values : ∀ entry ∈ metadata.extra, entry.2.Normal

/-- The values of a plan are normal. -/
structure Plan.Normal (plan : Plan) : Prop where
  steps : ∀ step ∈ plan.steps, step.Normal
  metadata : plan.metadata.Normal

/-- The values of a step, which stand inside of three containers, can be followed by a reader. -/
def Step.Shallow (step : Step) : Prop :=
  ∀ value ∈ step.values, value.depth ≤ 124

/-- The values of metadata, which stand inside of two containers, can be followed by a reader. -/
def Metadata.Shallow (metadata : Metadata) : Prop :=
  ∀ entry ∈ metadata.extra, entry.2.depth ≤ 125

/-- The values of a plan can be followed by a reader. -/
structure Plan.Shallow (plan : Plan) : Prop where
  steps : ∀ step ∈ plan.steps, step.Shallow
  metadata : plan.metadata.Shallow

instance (step : Step) : Decidable step.Shallow :=
  inferInstanceAs (Decidable (∀ value ∈ step.values, value.depth ≤ 124))

instance (metadata : Metadata) : Decidable metadata.Shallow :=
  inferInstanceAs (Decidable (∀ entry ∈ metadata.extra, entry.2.depth ≤ 125))

instance (plan : Plan) : Decidable plan.Shallow :=
  decidable_of_iff ((∀ step ∈ plan.steps, step.Shallow) ∧ plan.metadata.Shallow)
    ⟨fun parts => ⟨parts.1, parts.2⟩, fun shallow => ⟨shallow.steps, shallow.metadata⟩⟩

/-- The values of a step are fit for places with so much room. -/
def Step.Within (room : Nat) (step : Step) : Prop :=
  ∀ value ∈ step.values, Json.Fits room value

/-- Metadata are normal, and there is so much room for their values. -/
structure Metadata.Within (room : Nat) (metadata : Metadata) : Prop where
  normal : metadata.Normal
  shallow : ∀ entry ∈ metadata.extra, entry.2.depth ≤ room

/-- The values in the steps of a plan have so much room, and those in the metadata one more. -/
structure Plan.Within (room : Nat) (plan : Plan) : Prop where
  steps : ∀ step ∈ plan.steps, step.Within room
  metadata : plan.metadata.Within (room + 1)

theorem Plan.within_of_shallow {plan : Plan} (normal : plan.Normal) (shallow : plan.Shallow) :
    plan.Within 124 := by
  refine ⟨fun step member value held => ?_, normal.metadata, shallow.metadata⟩
  exact ⟨normal.steps step member value held, shallow.steps step member value held⟩

/-! ## Results that are null -/

theorem Step.forgetNull_eq_self_iff (step : Step) :
    step.forgetNull = step ↔ step.result ≠ some .null := by
  cases step with
  | mk id description actionType tool arguments dependencies status optional parallel retryCount
      maxRetries result error =>
    cases result with
    | none => simp [forgetNull]
    | some value => by_cases isNull : value = .null <;> simp [forgetNull, Option.filter, isNull]

theorem Plan.forgetNulls_eq_self_iff {plan : Plan} :
    plan.forgetNulls = plan ↔ ∀ step ∈ plan.steps, step.result ≠ some .null := by
  have steps : plan.steps.map Step.forgetNull = plan.steps.map (fun step => step) ↔
      ∀ step ∈ plan.steps, step.result ≠ some .null := by
    rw [List.map_inj_left]
    exact forall₂_congr fun step _ => step.forgetNull_eq_self_iff
  rw [← steps, List.map_id']
  constructor
  · exact congrArg Plan.steps
  · intro same
    rw [forgetNulls, same]

/-! ## Reading what was written -/

section Writing

variable {room : Nat}

theorem StepStatus.restores (status : StepStatus) :
    StepStatus.read.Restores room (.string status.name) status :=
  Reader.restores_choice (by cases status <;> rfl)

theorem PlanStatus.restores (status : PlanStatus) :
    PlanStatus.read.Restores room (.string status.name) status :=
  Reader.restores_choice (by cases status <;> rfl)

theorem Step.restores {step : Step} (within : step.Within (room + 1)) :
    Step.read.Restores (room + 2) step.toJson step.forgetNull := by
  have arguments : Json.Fits (room + 1) step.arguments := within _ List.mem_cons_self
  have result : ∀ value ∈ step.result, Json.Fits (room + 1) value := fun value held =>
    within value (List.mem_cons_of_mem _ (Option.mem_toList.2 held))
  refine Record.restores_of_fills (by decide) ?_
  exact .cons (Reader.restores_text step.id) <|
    .cons (Reader.restores_text step.description) <|
    .cons (Reader.restores_text step.actionType) <|
    .cons (Reader.restores_text step.tool) <|
    .cons (Reader.restores_free arguments) <|
    .cons (Reader.restores_idSet step.dependencies) <|
    .cons (StepStatus.restores step.status) <|
    .cons (Reader.restores_flag step.optional) <|
    .cons (Reader.restores_flag step.parallel) <|
    .cons (Reader.restores_word32 step.retryCount) <|
    .cons (Reader.restores_optional Json.word32_ne_null fun maxRetries _ =>
      Reader.restores_word32 maxRetries) <|
    .cons (Reader.restores_optional_free result) <|
    .cons (Reader.restores_optional Json.string_ne_null fun error _ =>
      Reader.restores_text error) <|
    .nil _

theorem Signals.restores (signals : Signals) :
    Signals.read.Restores (room + 2) signals.toJson signals := by
  refine Record.restores_of_fills (by decide) ?_
  exact .cons (Reader.restores_texts signals.needs) <|
    .cons (Reader.restores_optional Json.string_ne_null fun next _ =>
      Reader.restores_text next) <|
    .cons (Reader.restores_texts signals.errors) <|
    .cons (Reader.restores_texts signals.noDiscoveryPath) <|
    .nil _

/-- Unknown entries are put into the metadata one by one. -/
theorem Metadata.readEntries_unknown {origin : Origin} {metadata : Metadata} {seen : List String}
    {entries : List (String × Json)} (normal : ∀ entry ∈ entries, entry.2.Normal)
    (unknown : ∀ entry ∈ entries, entry.1 ∉ knownFields.map (·.name)) :
    readEntries origin (Document.ofFields entries) metadata seen =
      .ok { metadata with
        extra := entries.foldl (fun extra (key, value) => Keyed.insert key value extra)
          metadata.extra } := by
  induction entries generalizing metadata with
  | nil => rfl
  | cons entry rest ih =>
      obtain ⟨key, value⟩ := entry
      have noField : knownFields.find? (·.name == key) = none := by
        refine List.find?_eq_none.2 fun field member same => ?_
        exact unknown (key, value) List.mem_cons_self
          (List.mem_map.2 ⟨field, member, by simpa using same⟩)
      have fits : Json.Fits value.depth value :=
        ⟨normal (key, value) List.mem_cons_self, Nat.le_refl _⟩
      have read := (Reader.restores_free fits).recovers origin
      have later : ∀ metadata, readEntries origin (Document.ofFields rest) metadata seen = .ok
          { metadata with
            extra := rest.foldl (fun extra (key, value) => Keyed.insert key value extra)
              metadata.extra } := by
        intro metadata
        exact ih (fun other member => normal other (List.mem_cons_of_mem _ member))
          (fun other member => unknown other (List.mem_cons_of_mem _ member))
      simp only [Document.ofFields, readEntries, noField, read, bind, Except.bind, later,
        List.foldl_cons]

/-- A known entry that was not there before is taken in by its field. -/
theorem Metadata.readEntries_known {origin : Origin} {metadata next : Metadata}
    {seen : List String} {field : Field Metadata} {document : Document}
    {rest : List (String × Document)} (member : field ∈ knownFields) (fresh : field.name ∉ seen)
    (fill : field.fill origin document metadata = .ok next) :
    readEntries origin ((field.name, document) :: rest) metadata seen =
      readEntries origin rest next (field.name :: seen) := by
  have known : knownFields.find? (·.name == field.name) = some field :=
    Field.find?_name (by decide) member
  simp only [readEntries, known, if_neg fresh, fill, bind, Except.bind]

theorem Metadata.restores {metadata : Metadata} (within : metadata.Within (room + 2)) :
    Metadata.read.Restores (room + 3) metadata.toJson metadata := by
  have signals : (Reader.optional Signals.read).Restores (room + 2)
      (Writer.optional Signals.toJson metadata.signals) metadata.signals :=
    Reader.restores_optional (fun _ => Json.object_ne_null _) fun signals _ => signals.restores
  have count : Reader.word32.Restores (room + 2) (Writer.word32 metadata.replansCount)
      metadata.replansCount := Reader.restores_word32 _
  refine ⟨Json.depth_object_le ?_, fun origin => ?_⟩
  · exact List.forall_mem_cons.2 ⟨signals.depth_le,
      List.forall_mem_cons.2 ⟨count.depth_le, within.shallow⟩⟩
  · have extra : readEntries origin (Document.ofFields metadata.extra)
        { metadata with extra := [] } ["replans_count", "signals"] = .ok metadata := by
      rw [readEntries_unknown within.normal.values within.normal.unknown]
      exact congrArg (fun extra => Except.ok { metadata with extra })
        (Keyed.ofList_of_sorted within.normal.sorted)
    have entries : readEntries origin (Document.ofFields
        (("signals", Writer.optional Signals.toJson metadata.signals) ::
          ("replans_count", Writer.word32 metadata.replansCount) :: metadata.extra)) {} [] =
        .ok metadata := by
      have first := signals.recovers origin
      have second := count.recovers origin
      exact (readEntries_known (.head _) (by simp) (Field.fill_of _ first)).trans <|
        (readEntries_known (.tail _ (.head _)) (by decide) (Field.fill_of _ second)).trans extra
    simp only [read, toJson, Document.ofJson, entries, bind, Except.bind, pure, Except.pure]

theorem Plan.restores {plan : Plan} (within : plan.Within (room + 1)) :
    Plan.read.Restores (room + 4) plan.toJson plan.forgetNulls := by
  have steps : (Reader.list Step.read).Restores (room + 3) (Writer.list Step.toJson plan.steps)
      (plan.steps.map Step.forgetNull) :=
    Reader.restores_list_map fun step member => Step.restores (within.steps step member)
  refine Record.restores_of_fills (by decide) ?_
  exact .cons (Reader.restores_text plan.id) <|
    .cons (Reader.restores_text plan.strategy) <|
    .cons (Reader.restores_text plan.goal) <|
    .cons (Reader.restores_text plan.reasoning) <|
    .cons steps <|
    .cons (PlanStatus.restores plan.status) <|
    .cons (Metadata.restores within.metadata) <|
    .nil _

end Writing

/-! ## The text of a plan -/

theorem Step.readsBack_toJson {step : Step} (readsBack : ∀ value ∈ step.values, value.ReadsBack) :
    step.toJson.ReadsBack := by
  refine Json.readsBackFields_iff.2 ?_
  simp only [List.forall_mem_cons]
  refine ⟨trivial, trivial, trivial, trivial, readsBack _ List.mem_cons_self,
    Json.readsBack_texts _, trivial, trivial, trivial, Json.readsBack_word32 _,
    Json.readsBack_optional fun _ _ => Json.readsBack_word32 _,
    Json.readsBack_optional fun value held => readsBack value ?_,
    Json.readsBack_optional fun _ _ => trivial, by simp⟩
  exact List.mem_cons_of_mem _ (Option.mem_toList.2 held)

theorem Signals.readsBack_toJson (signals : Signals) : signals.toJson.ReadsBack := by
  refine Json.readsBackFields_iff.2 ?_
  simp only [List.forall_mem_cons]
  exact ⟨Json.readsBack_texts _, Json.readsBack_optional fun _ _ => trivial,
    Json.readsBack_texts _, Json.readsBack_texts _, by simp⟩

theorem Metadata.readsBack_toJson {metadata : Metadata}
    (readsBack : ∀ entry ∈ metadata.extra, entry.2.ReadsBack) : metadata.toJson.ReadsBack := by
  refine Json.readsBackFields_iff.2 ?_
  simp only [List.forall_mem_cons]
  exact ⟨Json.readsBack_optional fun signals _ => signals.readsBack_toJson,
    Json.readsBack_word32 _, readsBack⟩

theorem Plan.readsBack_toJson {plan : Plan} (readsBack : ∀ value ∈ plan.values, value.ReadsBack) :
    plan.toJson.ReadsBack := by
  have steps : ∀ step ∈ plan.steps, step.toJson.ReadsBack := by
    intro step member
    refine Step.readsBack_toJson fun value held => ?_
    exact readsBack value (List.mem_append_left _ (List.mem_flatMap_of_mem member held))
  have extra : ∀ entry ∈ plan.metadata.extra, entry.2.ReadsBack := fun entry member =>
    readsBack entry.2 (List.mem_append_right _ (List.mem_map_of_mem member))
  refine Json.readsBackFields_iff.2 ?_
  simp only [List.forall_mem_cons]
  exact ⟨trivial, trivial, trivial, trivial, Json.readsBack_list steps, trivial,
    Metadata.readsBack_toJson extra, by simp⟩

/-- The text of a plan is read back as the plan, but for the results that are null. -/
theorem Plan.ofText_compact {plan : Plan} (normal : plan.Normal) (shallow : plan.Shallow)
    (readsBack : ∀ value ∈ plan.values, value.ReadsBack) :
    Reader.ofText Plan.read plan.toJson.compact = .ok plan.forgetNulls :=
  (Plan.restores (Plan.within_of_shallow normal shallow)).ofText (Plan.readsBack_toJson readsBack)

/-! ## Plans that were read -/

section Reading

variable {origin : Origin} {document : Document} {room : Nat}

/-- A step as it is read: there is so much room for its values, and its result is not null. -/
def Step.Parsed (room : Nat) (step : Step) : Prop :=
  step.Within room ∧ step.result ≠ some .null

theorem Step.keeps_parsed (origin : Origin) (room : Nat) :
    Step.record.Keeps origin room (Parsed room) := by
  have arguments : ∀ {name presence}, (Field.of name presence Reader.free
      fun (step : Step) arguments => { step with arguments }).Keeps origin room
        (Parsed room) := by
    intro name presence
    refine Field.keeps_of fun document step value shallow read held => ⟨?_, held.2⟩
    refine List.forall_mem_cons.2 ⟨Reader.fits_of_free shallow read, fun other member => ?_⟩
    exact held.1 other (List.mem_cons_of_mem _ member)
  have result : ∀ {name presence}, (Field.of name presence (Reader.optional Reader.free)
      fun (step : Step) result => { step with result }).Keeps origin room (Parsed room) := by
    intro name presence
    refine Field.keeps_of fun document step value shallow read held =>
      ⟨?_, Reader.ne_null_of_optional_free read⟩
    refine List.forall_mem_cons.2
      ⟨held.1 step.arguments List.mem_cons_self, fun other member => ?_⟩
    exact Reader.forall_of_optional (fun _ => Reader.fits_of_free shallow) read other
      (Option.mem_toList.1 member)
  simp only [Record.Keeps, record, List.forall_mem_cons]
  exact ⟨Field.keeps_of_store fun _ _ same => same, Field.keeps_of_store fun _ _ same => same,
    Field.keeps_of_store fun _ _ same => same, Field.keeps_of_store fun _ _ same => same,
    arguments, Field.keeps_of_store fun _ _ same => same,
    Field.keeps_of_store fun _ _ same => same, Field.keeps_of_store fun _ _ same => same,
    Field.keeps_of_store fun _ _ same => same, Field.keeps_of_store fun _ _ same => same,
    Field.keeps_of_store fun _ _ same => same, result, Field.keeps_of_store fun _ _ same => same,
    by simp⟩

theorem Step.parsed_of_read {step : Step} (shallow : document.depth ≤ room + 1)
    (read : Step.read origin document = .ok step) : step.Parsed room := by
  have blank : Step.blank.Parsed room :=
    ⟨List.forall_mem_cons.2 ⟨Json.fits_null, nofun⟩, nofun⟩
  exact (Step.keeps_parsed origin room).read blank shallow read

theorem Step.isStable_read : Step.read.IsStable (room + 2) Step.toJson := by
  intro origin document step shallow read
  obtain ⟨within, notNull⟩ := Step.parsed_of_read shallow read
  have restores := Step.restores within
  rwa [step.forgetNull_eq_self_iff.2 notNull] at restores

/-- A field that knows its key leaves the other entries alone. -/
theorem Metadata.extra_of_fill {field : Field Metadata} {metadata next : Metadata}
    (member : field ∈ knownFields) (filled : field.fill origin document metadata = .ok next) :
    next.extra = metadata.extra := by
  have keeps : ∀ field ∈ knownFields, field.Keeps origin document.depth fun next =>
      next.extra = metadata.extra := by
    simp only [knownFields, List.forall_mem_cons]
    exact ⟨Field.keeps_of_store fun _ _ same => same, Field.keeps_of_store fun _ _ same => same,
      by simp⟩
  exact keeps field member document metadata next (Nat.le_refl _) filled rfl

/-- Whether metadata are normal depends on their unknown entries only. -/
theorem Metadata.Normal.of_extra {metadata next : Metadata} (normal : metadata.Normal)
    (same : next.extra = metadata.extra) : next.Normal := by
  constructor
  · rw [same]
    exact normal.sorted
  · rw [same]
    exact normal.unknown
  · rw [same]
    exact normal.values

/-- An unknown entry with a normal value keeps metadata normal. -/
theorem Metadata.Normal.insert {metadata : Metadata} {key : String} {value : Json}
    (normal : metadata.Normal) (unknown : key ∉ knownFields.map (·.name))
    (valueNormal : value.Normal) :
    Metadata.Normal { metadata with extra := Keyed.insert key value metadata.extra } := by
  constructor
  · exact Keyed.sorted_insert key value normal.sorted
  · intro entry member
    rcases Keyed.mem_of_mem_insert member with rfl | old
    · exact unknown
    · exact normal.unknown entry old
  · intro entry member
    rcases Keyed.mem_of_mem_insert member with rfl | old
    · exact valueNormal
    · exact normal.values entry old

theorem Metadata.within_of_readEntries {entries : List (String × Document)}
    {metadata last : Metadata} {seen : List String} (shallow : Document.depthFields entries ≤ room)
    (within : metadata.Within room) (read : readEntries origin entries metadata seen = .ok last) :
    last.Within room := by
  induction entries generalizing metadata seen with
  | nil =>
      cases read
      exact within
  | cons entry rest ih =>
      obtain ⟨key, document⟩ := entry
      obtain ⟨here, later⟩ := Nat.max_le.1 shallow
      rw [readEntries] at read
      split at read
      · rename_i field known
        by_cases repeated : key ∈ seen
        · rw [if_pos repeated] at read
          contradiction
        · rw [if_neg repeated] at read
          obtain ⟨next, filled, read⟩ := exists_of_bind_eq_ok read
          have same := Metadata.extra_of_fill (List.mem_of_find?_eq_some known) filled
          refine ih later ⟨within.normal.of_extra same, ?_⟩ read
          rw [same]
          exact within.shallow
      · rename_i noField
        obtain ⟨value, valueRead, read⟩ := exists_of_bind_eq_ok read
        obtain ⟨valueNormal, valueShallow⟩ := Reader.fits_of_free here valueRead
        have unknown : key ∉ knownFields.map (·.name) := by
          intro member
          obtain ⟨field, isKnown, rfl⟩ := List.mem_map.1 member
          simpa using List.find?_eq_none.1 noField field isKnown
        refine ih later ⟨within.normal.insert unknown valueNormal, fun entry member => ?_⟩ read
        rcases Keyed.mem_of_mem_insert member with rfl | old
        · exact valueShallow
        · exact within.shallow entry old

theorem Metadata.within_empty : Metadata.Within room {} :=
  ⟨⟨List.Pairwise.nil, nofun, nofun⟩, nofun⟩

theorem Metadata.within_of_read {metadata : Metadata} (shallow : document.depth ≤ room + 1)
    (read : Metadata.read origin document = .ok metadata) : metadata.Within room := by
  cases document with
  | object entries breach =>
      obtain ⟨found, entriesRead, rest⟩ := exists_of_bind_eq_ok read
      have within := Metadata.within_of_readEntries (Nat.le_of_succ_le_succ shallow)
        Metadata.within_empty entriesRead
      cases breach with
      | some breach => contradiction
      | none =>
          cases rest
          exact within
  | null | boolean _ | number _ | string _ | array _ _ | unreadable _ _ | severed _ =>
      contradiction

theorem Metadata.isStable_read : Metadata.read.IsStable (room + 3) Metadata.toJson :=
  fun _ _ _ shallow read => Metadata.restores (Metadata.within_of_read shallow read)

/-- The values of a plan are normal and can be followed by a reader. -/
def Plan.Fits (plan : Plan) : Prop :=
  plan.Normal ∧ plan.Shallow

/-- A plan as it is read: there is so much room for its values, and no result is null. -/
def Plan.Parsed (room : Nat) (plan : Plan) : Prop :=
  (∀ step ∈ plan.steps, step.Parsed room) ∧ plan.metadata.Within (room + 1)

theorem Plan.keeps_parsed (origin : Origin) (room : Nat) :
    Plan.record.Keeps origin (room + 2) (Parsed room) := by
  have steps : ∀ {name presence}, (Field.of name presence (Reader.list Step.read)
      fun (plan : Plan) steps => { plan with steps }).Keeps origin (room + 2)
        (Parsed room) := by
    intro name presence
    refine Field.keeps_of fun document plan steps shallow read held => ⟨?_, held.2⟩
    exact Reader.forall_of_list (fun _ _ => Step.parsed_of_read) shallow read
  have metadata : ∀ {name presence}, (Field.of name presence Metadata.read
      fun (plan : Plan) metadata => { plan with metadata }).Keeps origin (room + 2)
        (Parsed room) := by
    intro name presence
    refine Field.keeps_of fun document plan metadata shallow read held => ⟨held.1, ?_⟩
    exact Metadata.within_of_read shallow read
  simp only [Record.Keeps, record, List.forall_mem_cons]
  exact ⟨Field.keeps_of_store fun _ _ same => same, Field.keeps_of_store fun _ _ same => same,
    Field.keeps_of_store fun _ _ same => same, Field.keeps_of_store fun _ _ same => same, steps,
    Field.keeps_of_store fun _ _ same => same, metadata, by simp⟩

theorem Plan.parsed_of_read {plan : Plan} (shallow : document.depth ≤ room + 3)
    (read : Plan.read origin document = .ok plan) : plan.Parsed room :=
  (Plan.keeps_parsed origin room).read ⟨nofun, Metadata.within_empty⟩ shallow read

theorem Plan.isStable_read : Plan.read.IsStable (room + 4) Plan.toJson := by
  intro origin document plan shallow read
  obtain ⟨steps, metadata⟩ := Plan.parsed_of_read shallow read
  have restores := Plan.restores ⟨fun step member => (steps step member).1, metadata⟩
  rwa [Plan.forgetNulls_eq_self_iff.2 fun step member => (steps step member).2] at restores

/-- A plan that was read from a text is normal, and its text can be read again. -/
theorem Plan.fits_of_ofText {text : String} {plan : Plan}
    (read : Reader.ofText Plan.read text = .ok plan) : plan.Fits := by
  obtain ⟨document, -, shallow, parsed⟩ := Reader.exists_of_ofText read
  obtain ⟨steps, metadata⟩ : plan.Parsed 124 := Plan.parsed_of_read shallow parsed
  have fits : ∀ step ∈ plan.steps, ∀ value ∈ step.values, Json.Fits 124 value :=
    fun step member => (steps step member).1
  exact ⟨⟨fun step member value held => (fits step member value held).1, metadata.normal⟩,
    ⟨fun step member value held => (fits step member value held).2, metadata.shallow⟩⟩

end Reading

end PlanRunner
