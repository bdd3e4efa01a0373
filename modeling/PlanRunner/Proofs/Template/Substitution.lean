import Mathlib.Data.List.Forall2
import PlanRunner.Proofs.Template.Grammar
import PlanRunner.Template.Resolution

/-!
# Substitution

What the arguments of a step become, told by rules. A text that is a reference becomes the value
that the reference denotes. In any other text each written reference gives way to the text of its
value; what stands around the references is kept, and so is a reference that denotes nothing. A text
that has taken the place of a reference is not searched again. All else in the arguments stays as it
is.
-/

namespace PlanRunner

open Reference

/-- A value stands in another one at the end of a path. In an object a segment is the key of a
field, in an array it is a position in digits. -/
inductive Json.At : List String → Json → Json → Prop where
  | here (value : Json) : At [] value value
  | field {segment : String} {path : List String} {fields : List (String × Json)}
      {inner value : Json} (found : fields.lookup segment = some inner)
      (below : At path inner value) : At (segment :: path) (.object fields) value
  | item {segment : String} {path : List String} {items : List Json} {position : Nat}
      {inner value : Json} (isPosition : position? segment = some position)
      (found : items[position]? = some inner) (below : At path inner value) :
      At (segment :: path) (.array items) value

/-- A reference denotes what its path leads to in the result of a step that succeeded, or the input
if no step bears the name of the input. Of several steps with one identifier the first counts. -/
inductive Reference.Denotes (steps : List Step) (input : String) : Reference → Json → Prop where
  | result {id : String} {path : List String} {step : Step} {root value : Json}
      (first : steps.find? (·.id == id) = some step) (succeeded : step.status = .succeeded)
      (result : step.result = some root) (below : Json.At path root value) :
      Denotes steps input ⟨id, path⟩ value
  | input (free : ∀ step ∈ steps, step.id ≠ inputName) :
      Denotes steps input ⟨inputName, []⟩ (.string input)

/-- What takes the place of a reference in a text. -/
inductive Replacement (denotes : Reference → Json → Prop) (source : List Char)
    (target : Reference) : List Char → Prop where
  | text {content : String} (denoted : denotes target (.string content)) :
      Replacement denotes source target content.toList
  | compact {value : Json} (denoted : denotes target value)
      (noText : ∀ content, value ≠ .string content) :
      Replacement denotes source target value.compact.toList
  | kept (nothing : ∀ value, ¬denotes target value) : Replacement denotes source target source

/-- A text without a reference stays as it is. Where there is one, what stands before and after it
is treated in the same way. -/
inductive Interpolated (denotes : Reference → Json → Prop) : List Char → List Char → Prop where
  | plain {text : List Char}
      (nowhere : ∀ before source target after, Written source target →
        text ≠ before ++ (source ++ after)) :
      Interpolated denotes text text
  | around {before source after earlier replacement later : List Char} {target : Reference}
      (written : Written source target)
      (replaced : Replacement denotes source target replacement)
      (left : Interpolated denotes before earlier) (right : Interpolated denotes after later) :
      Interpolated denotes (before ++ (source ++ after)) (earlier ++ (replacement ++ later))

/-- What a value becomes when the references in its texts are replaced. -/
inductive Substituted (denotes : Reference → Json → Prop) : Json → Json → Prop where
  | null : Substituted denotes .null .null
  | boolean (value : Bool) : Substituted denotes (.boolean value) (.boolean value)
  | number (value : Number) : Substituted denotes (.number value) (.number value)
  | whole {text : String} {target : Reference} {value : Json}
      (written : Written text.toList target) (denoted : denotes target value) :
      Substituted denotes (.string text) value
  | text {text filled : String}
      (notWhole : ∀ target value, Written text.toList target → ¬denotes target value)
      (interpolated : Interpolated denotes text.toList filled.toList) :
      Substituted denotes (.string text) (.string filled)
  | array {items filled : List Json} (each : List.Forall₂ (Substituted denotes) items filled) :
      Substituted denotes (.array items) (.array filled)
  | object {fields filled : List (String × Json)}
      (keys : fields.map Prod.fst = filled.map Prod.fst)
      (values : List.Forall₂ (Substituted denotes) (fields.map Prod.snd) (filled.map Prod.snd)) :
      Substituted denotes (.object fields) (.object filled)

variable {steps : List Step} {input text : String} {reference target : Reference}
  {root value result : Json} {path : List String}
  {source before after replacement characters filled : List Char}

/-! ## Values of references -/

/-- Following a path leads to the value at its end. -/
theorem follow_eq_some_iff : follow path root = some value ↔ Json.At path root value := by
  induction path generalizing root with
  | nil =>
      constructor
      · rintro ⟨⟩
        exact .here _
      · rintro ⟨⟩
        rfl
  | cons segment path ih =>
      constructor
      · intro found
        cases root with
        | object fields =>
            obtain ⟨inner, isField, below⟩ := Option.bind_eq_some_iff.1 found
            exact .field isField (ih.1 below)
        | array items =>
            rw [follow] at found
            split at found
            · rename_i position isPosition
              obtain ⟨inner, isItem, below⟩ := Option.bind_eq_some_iff.1 found
              exact .item isPosition isItem (ih.1 below)
            · contradiction
        | null | boolean _ | number _ | string _ => contradiction
      · intro leads
        cases leads with
        | field isField below => exact Option.bind_eq_some_iff.2 ⟨_, isField, ih.2 below⟩
        | item isPosition isItem below =>
            simp only [follow, isPosition]
            exact Option.bind_eq_some_iff.2 ⟨_, isItem, ih.2 below⟩

/-- The value of a reference is what it denotes. -/
theorem value?_eq_some_iff :
    value? steps input reference = some value ↔ Denotes steps input reference value := by
  obtain ⟨id, path⟩ := reference
  constructor
  · intro found
    obtain ⟨root, isRoot, below⟩ := Option.bind_eq_some_iff.1 found
    rw [follow_eq_some_iff] at below
    simp only [root?] at isRoot
    split at isRoot
    · rename_i step first
      split at isRoot
      · rename_i succeeded
        exact .result first succeeded isRoot below
      · contradiction
    · rename_i absent
      split at isRoot
      · rename_i isInput
        cases isRoot
        cases below
        subst isInput
        refine .input fun step member => ?_
        simpa using List.find?_eq_none.1 absent step member
      · contradiction
  · intro denoted
    cases denoted with
    | result first succeeded isResult below =>
        refine Option.bind_eq_some_iff.2 ⟨_, ?_, follow_eq_some_iff.2 below⟩
        simp only [root?, first, succeeded, isResult, if_true]
    | input free =>
        have absent : steps.find? (·.id == inputName) = none := by
          rw [List.find?_eq_none]
          intro step member
          simpa using free step member
        simp [value?, root?, absent, follow]

/-! ## Texts -/

namespace Template

variable {lookup : Lookup} {denotes : Reference → Json → Prop}

/-- What is found for a reference is what it denotes. -/
def Finds (lookup : Lookup) (denotes : Reference → Json → Prop) : Prop :=
  ∀ reference value, lookup reference = some value ↔ denotes reference value

theorem finds_value? (steps : List Step) (input : String) :
    Finds (value? steps input) (Denotes steps input) :=
  fun _ _ => value?_eq_some_iff

theorem Finds.eq_none_iff (finds : Finds lookup denotes) :
    lookup target = none ↔ ∀ value, ¬denotes target value := by
  simp only [Option.eq_none_iff_forall_ne_some, ne_eq, finds target]

/-- The characters of a text once each of its pieces is filled. -/
def interpolation (lookup : Lookup) (characters : List Char) : List Char :=
  (Piece.split characters).flatMap fun piece => (piece.filled lookup).toList

theorem interpolation_around (written : Written source target) (before after : List Char) :
    interpolation lookup (before ++ (source ++ after)) =
      interpolation lookup before ++
        (((Piece.reference source target).filled lookup).toList ++ interpolation lookup after) := by
  rw [interpolation, Piece.split_around written, List.flatMap_append, List.flatMap_cons]
  rfl

/-- A text with nothing but literal pieces stays as it is. -/
theorem interpolation_of_literal
    (literal : ∀ source target, .reference source target ∉ Piece.split characters) :
    interpolation lookup characters = characters := by
  conv_rhs => rw [← Piece.flatMap_source_split characters]
  refine List.flatMap_congr fun piece member => ?_
  cases piece with
  | literal character => simp [Piece.filled, Piece.source]
  | reference source target => exact absurd member (literal source target)

/-- What fills a piece is what takes the place of the reference. -/
theorem replacement_iff (finds : Finds lookup denotes) :
    Replacement denotes source target replacement ↔
      ((Piece.reference source target).filled lookup).toList = replacement := by
  constructor
  · intro replaced
    cases replaced with
    | text denoted => simp [Piece.filled, (finds _ _).2 denoted, Piece.valueText]
    | compact denoted noText =>
        rename_i value
        cases value with
        | string content => exact absurd rfl (noText content)
        | null | boolean _ | number _ | array _ | object _ =>
            simp [Piece.filled, (finds _ _).2 denoted, Piece.valueText]
    | kept nothing => simp [Piece.filled, finds.eq_none_iff.2 nothing]
  · rintro rfl
    cases found : lookup target with
    | none =>
        simp only [Piece.filled, found, String.toList_ofList]
        exact .kept (finds.eq_none_iff.1 found)
    | some value =>
        have denoted := (finds _ _).1 found
        simp only [Piece.filled, found]
        cases value with
        | string content => exact .text denoted
        | null | boolean _ | number _ | array _ | object _ =>
            exact .compact denoted (by simp)

/-- The rules for texts lead to one text only, the one with all of its pieces filled. -/
theorem interpolated_iff (finds : Finds lookup denotes) :
    Interpolated denotes characters filled ↔ interpolation lookup characters = filled := by
  constructor
  · intro interpolated
    induction interpolated with
    | plain nowhere =>
        refine interpolation_of_literal fun source target member => ?_
        obtain ⟨before, after, same⟩ := Piece.exists_append_of_mem_split member
        exact nowhere before source target after (Piece.written_of_mem_split member) same
    | around written replaced left right earlier later =>
        rw [interpolation_around written, earlier, later, (replacement_iff finds).1 replaced]
  · rintro rfl
    -- The texts before and after a reference are shorter than the whole.
    induction length : characters.length using Nat.strong_induction_on generalizing characters with
    | _ length ih =>
        by_cases literal : ∀ source target, .reference source target ∉ Piece.split characters
        · rw [interpolation_of_literal literal]
          refine .plain fun before source target after written same => ?_
          refine literal source target ?_
          rw [same, Piece.split_around written]
          exact List.mem_append_right _ List.mem_cons_self
        · simp only [not_forall, not_not] at literal
          obtain ⟨source, target, member⟩ := literal
          have written := Piece.written_of_mem_split member
          have filled := written.length_pos
          obtain ⟨before, after, rfl⟩ := Piece.exists_append_of_mem_split member
          simp only [List.length_append] at length
          rw [interpolation_around written]
          refine .around written ((replacement_iff finds).2 rfl) ?_ ?_
          · exact ih before.length (by omega) rfl
          · exact ih after.length (by omega) rfl

/-- A text that is a reference becomes the value of the reference, if it has one. -/
theorem fillText_of_written (written : Written text.toList target)
    (found : lookup target = some value) : fillText lookup text = value := by
  have single : Piece.split text.toList = [.reference text.toList target] := by
    simpa [Piece.split] using Piece.split_append written []
  rw [fillText]
  simp only [single, found, Option.getD_some]

/-- Any other text is filled. -/
theorem fillText_of_not_whole
    (notWhole : ∀ target, Written text.toList target → lookup target = none) :
    fillText lookup text = .string (String.ofList (interpolation lookup text.toList)) := by
  unfold fillText
  split
  · rename_i source target single
    have written : Written source target :=
      Piece.written_of_mem_split (single ▸ List.mem_cons_self)
    have whole : source = text.toList := by
      simpa [single, Piece.source] using Piece.flatMap_source_split text.toList
    rw [whole] at written
    simp [interpolation, single, Piece.filled, notWhole target written, whole]
  · rw [interpolation, ← String.ofList_toList (s := String.join _), String.toList_join,
      List.flatMap_map]

/-- The rules for a text that is a string of its own lead to what takes its place. -/
theorem substituted_text_iff (finds : Finds lookup denotes) :
    Substituted denotes (.string text) result ↔ fillText lookup text = result := by
  constructor
  · intro substituted
    cases substituted with
    | whole written denoted => exact fillText_of_written written ((finds _ _).2 denoted)
    | text notWhole interpolated =>
        rw [fillText_of_not_whole fun target written =>
            finds.eq_none_iff.2 fun value => notWhole target value written,
          (interpolated_iff finds).1 interpolated, String.ofList_toList]
  · rintro rfl
    by_cases whole : ∃ target value, Written text.toList target ∧ lookup target = some value
    · obtain ⟨target, value, written, found⟩ := whole
      rw [fillText_of_written written found]
      exact .whole written ((finds _ _).1 found)
    · have notWhole : ∀ target, Written text.toList target → lookup target = none := by
        intro target written
        rw [Option.eq_none_iff_forall_ne_some]
        exact fun value found => whole ⟨target, value, written, found⟩
      rw [fillText_of_not_whole notWhole]
      refine .text (fun target value written => ?_) ?_
      · exact finds.eq_none_iff.1 (notWhole target written) value
      · rw [interpolated_iff finds, String.toList_ofList]

/-! ## Values -/

theorem fillFields_keys (lookup : Lookup) (fields : List (String × Json)) :
    (fillFields lookup fields).map Prod.fst = fields.map Prod.fst := by
  induction fields with
  | nil => rfl
  | cons field rest ih => rw [fillFields, List.map_cons, List.map_cons, ih]

mutual

/-- The rules lead from a value to one value only. -/
theorem substituted_iff (finds : Finds lookup denotes) (value : Json) {result : Json} :
    Substituted denotes value result ↔ fill lookup value = result := by
  cases value with
  | null | boolean _ | number _ =>
      constructor
      · rintro ⟨⟩
        rfl
      · rintro rfl
        constructor
  | string text => exact substituted_text_iff finds
  | array items =>
      constructor
      · intro substituted
        cases substituted with
        | array each => rw [fill, (substitutedItems_iff finds items).1 each]
      · rintro rfl
        exact .array ((substitutedItems_iff finds items).2 rfl)
  | object fields =>
      constructor
      · intro substituted
        cases substituted with
        | object keys values =>
            have sameKeys := (fillFields_keys lookup fields).trans keys
            have sameValues := (substitutedFields_iff finds fields).1 values
            rw [fill, List.zip_of_prod sameKeys sameValues, ← List.zip_of_prod rfl rfl]
      · rintro rfl
        exact .object (fillFields_keys lookup fields).symm
          ((substitutedFields_iff finds fields).2 rfl)

theorem substitutedItems_iff (finds : Finds lookup denotes) (items : List Json)
    {filled : List Json} :
    List.Forall₂ (Substituted denotes) items filled ↔ fillItems lookup items = filled := by
  cases items with
  | nil => rw [List.forall₂_nil_left_iff, fillItems, eq_comm]
  | cons item rest =>
      rw [List.forall₂_cons_left_iff, fillItems]
      constructor
      · rintro ⟨first, later, isFirst, isLater, rfl⟩
        rw [(substituted_iff finds item).1 isFirst, (substitutedItems_iff finds rest).1 isLater]
      · rintro rfl
        exact ⟨_, _, (substituted_iff finds item).2 rfl,
          (substitutedItems_iff finds rest).2 rfl, rfl⟩

theorem substitutedFields_iff (finds : Finds lookup denotes) (fields : List (String × Json))
    {filled : List Json} :
    List.Forall₂ (Substituted denotes) (fields.map Prod.snd) filled ↔
      (fillFields lookup fields).map Prod.snd = filled := by
  cases fields with
  | nil => rw [List.map_nil, List.forall₂_nil_left_iff, fillFields, List.map_nil, eq_comm]
  | cons field rest =>
      rw [List.map_cons, List.forall₂_cons_left_iff, fillFields, List.map_cons]
      constructor
      · rintro ⟨first, later, isFirst, isLater, rfl⟩
        rw [(substituted_iff finds field.2).1 isFirst, (substitutedFields_iff finds rest).1 isLater]
      · rintro rfl
        exact ⟨_, _, (substituted_iff finds field.2).2 rfl,
          (substitutedFields_iff finds rest).2 rfl, rfl⟩

end

/--
Arguments are resolved as the rules of substitution tell, and in no other way: texts that are a
reference become the value that it denotes, all others have their references replaced by the text of
their values, and everything else is kept.
-/
theorem resolved_iff_substituted {steps : List Step} {input : String} {value result : Json} :
    (resolve steps input value).arguments = result ↔
      Substituted (Reference.Denotes steps input) value result :=
  (substituted_iff (finds_value? steps input) value).symm

/-- A result with braces in it is written out and not searched for references. -/
example :
    let quoting := { Step.new "quote" "cite" .null with
      status := .succeeded, result := some (.string "\x7b\x7binput\x7d\x7d") }
    (resolve [quoting] "secret" (.string "> \x7b\x7bquote\x7d\x7d")).arguments =
      .string "> \x7b\x7binput\x7d\x7d" := by
  decide +kernel

end Template

end PlanRunner
