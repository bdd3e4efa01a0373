import Mathlib.Data.List.Induction
import PlanRunner.Proofs.Template.Locality
import PlanRunner.Proofs.Template.Occurrences
import PlanRunner.Proofs.Template.Substitution

/-!
# What is missing

The list of what is missing in arguments names each reference that denotes nothing, once, in the
order in which they are first met. While more steps succeed, names leave the list, and those that
stay keep their order. Where several steps share an identifier, only the first of them counts.
-/

namespace PlanRunner

open Reference

/-! ## First occurrences -/

namespace FirstSeen

theorem ofList_append_singleton (texts : List String) (text : String) :
    ofList (texts ++ [text]) = add (ofList texts) text :=
  addAll_append [] texts [text]

/-- Some texts are first seen in the same order if the others are left out. -/
theorem filter_ofList (keep : String → Bool) (texts : List String) :
    (ofList texts).filter keep = ofList (texts.filter keep) := by
  induction texts using List.reverseRecOn with
  | nil => rfl
  | append_singleton texts text ih =>
      rw [ofList_append_singleton, List.filter_append]
      cases kept : keep text with
      | false =>
          rw [List.filter_singleton, kept, cond_false, List.append_nil, ← ih, add]
          split
          · rfl
          · simp [kept]
      | true =>
          rw [List.filter_singleton, kept, cond_true, ofList_append_singleton, ← ih, add, add]
          simp only [List.mem_filter, kept, and_true]
          split
          · rfl
          · simp [kept]

/-- If entries stand in an order, then of two of their labels the first one has an entry that comes
before all entries of the second one. -/
theorem pairwise_ofList_map {α : Type} {before : α → α → Prop} {label : α → String}
    {entries : List α} (ordered : entries.Pairwise before) :
    (ofList (entries.map label)).Pairwise fun first second =>
      ∃ entry ∈ entries, label entry = first ∧
        ∀ other ∈ entries, label other = second → before entry other := by
  induction entries using List.reverseRecOn with
  | nil => exact .nil
  | append_singleton entries last ih =>
      obtain ⟨earlier, -, atEnd⟩ := List.pairwise_append.1 ordered
      have isLast : ∀ entry ∈ entries, before entry last :=
        fun entry member => atEnd entry member last List.mem_cons_self
      -- An entry that comes before all others with a label comes before the last one as well.
      have kept : (ofList (entries.map label)).Pairwise fun first second =>
          ∃ entry ∈ entries ++ [last], label entry = first ∧
            ∀ other ∈ entries ++ [last], label other = second → before entry other := by
        refine (ih earlier).imp ?_
        rintro first second ⟨entry, member, rfl, isFirst⟩
        refine ⟨entry, List.mem_append_left _ member, rfl, fun other otherMember same => ?_⟩
        rcases List.mem_append.1 otherMember with isEarlier | isEnd
        · exact isFirst other isEarlier same
        · rw [List.mem_singleton.1 isEnd]
          exact isLast entry member
      rw [List.map_append, List.map_singleton, ofList_append_singleton, add]
      split
      · exact kept
      · rename_i unseen
        refine List.pairwise_append.2 ⟨kept, List.pairwise_singleton _ _, ?_⟩
        intro first isKnown second isNew
        obtain ⟨entry, member, rfl⟩ := List.mem_map.1 (mem_ofList.1 isKnown)
        refine ⟨entry, List.mem_append_left _ member, rfl, fun other otherMember same => ?_⟩
        rcases List.mem_append.1 otherMember with isEarlier | isEnd
        · refine absurd (mem_ofList.2 ?_) unseen
          rw [← List.mem_singleton.1 isNew, ← same]
          exact List.mem_map_of_mem isEarlier
        · rw [List.mem_singleton.1 isEnd]
          exact isLast entry member

end FirstSeen

/-! ## The list -/

/-- A step that goes on is the same step or has succeeded, which it had not before. -/
def Step.Advances (old new : Step) : Prop :=
  new = old ∨ (old.status ≠ .succeeded ∧ new.status = .succeeded ∧ new.id = old.id)

namespace Template

variable {steps others : List Step} {input label : String} {value : Json} {place : Place}
  {lookup other : Lookup} {denotes : Reference → Json → Prop} {occurrence : Occurrence}

/-- A reference that denotes nothing is written at a place in a value. -/
def Lacks (denotes : Reference → Json → Prop) (value : Json) (place : Place)
    (label : String) : Prop :=
  ∃ target, Occurs value place target ∧ (∀ found, ¬denotes target found) ∧ target.label = label

/-- A list names each reference of a value that denotes nothing once, in the order in which they are
first met. -/
structure Lists (denotes : Reference → Json → Prop) (value : Json) (missing : List String) :
    Prop where
  once : missing.Nodup
  exact : ∀ label, label ∈ missing ↔ ∃ place, Lacks denotes value place label
  ordered : missing.Pairwise fun first second =>
    ∃ place, Lacks denotes value place first ∧
      ∀ later, Lacks denotes value later second → place.Before later

theorem mem_unresolved_iff (finds : Finds lookup denotes) :
    occurrence ∈ unresolved lookup (occurrencesIn value) ↔
      Occurs value occurrence.place occurrence.target ∧
        ∀ found, ¬denotes occurrence.target found := by
  rw [unresolved, List.mem_filter, Option.isNone_iff_eq_none, finds.eq_none_iff]
  exact and_congr_left' (mem_occurrencesIn_iff value)

/-- A value lacks a reference where one of the occurrences without a value is. -/
theorem lacks_iff (finds : Finds lookup denotes) : Lacks denotes value place label ↔
    ∃ occurrence ∈ unresolved lookup (occurrencesIn value),
      occurrence.place = place ∧ occurrence.target.label = label := by
  constructor
  · rintro ⟨target, occurs, nothing, isLabel⟩
    exact ⟨⟨place, target⟩, (mem_unresolved_iff finds).2 ⟨occurs, nothing⟩, rfl, isLabel⟩
  · rintro ⟨occurrence, member, rfl, isLabel⟩
    obtain ⟨occurs, nothing⟩ := (mem_unresolved_iff finds).1 member
    exact ⟨occurrence.target, occurs, nothing, isLabel⟩

theorem lists_missing (finds : Finds lookup denotes) (normal : value.Normal) :
    Lists denotes value (FirstSeen.ofList (missingIn lookup value)) := by
  rw [missingIn_eq]
  constructor
  case once => exact FirstSeen.nodup_ofList _
  case exact =>
    intro label
    simp only [FirstSeen.mem_ofList, labels, List.mem_map, lacks_iff finds]
    constructor
    · rintro ⟨occurrence, member, isLabel⟩
      exact ⟨occurrence.place, occurrence, member, rfl, isLabel⟩
    · rintro ⟨_, occurrence, member, -, isLabel⟩
      exact ⟨occurrence, member, isLabel⟩
  case ordered =>
    have ordered : InOrder (unresolved lookup (occurrencesIn value)) :=
      (inOrder_occurrencesIn value normal).filter _
    refine (FirstSeen.pairwise_ofList_map ordered).imp ?_
    rintro first second ⟨occurrence, member, isLabel, isFirst⟩
    refine ⟨occurrence.place, (lacks_iff finds).2 ⟨occurrence, member, rfl, isLabel⟩, ?_⟩
    intro later lacks
    obtain ⟨second, secondMember, rfl, isSecond⟩ := (lacks_iff finds).1 lacks
    exact isFirst second secondMember isSecond

/-! ## Steps that go on -/

theorem named_of_mem (member : occurrence ∈ occurrencesIn value) : occurrence.target.Named :=
  ((mem_occurrencesIn_iff value).1 member).named

/-- A reference has no value either where fewer of them have one. -/
theorem Extends.eq_none (grows : Extends lookup other) {target : Reference}
    (nothing : other target = none) : lookup target = none := by
  rw [Option.eq_none_iff_forall_ne_some]
  intro found isValue
  rw [grows target found isValue] at nothing
  contradiction

/-- Where more references have values, occurrences leave the list, all those with one label
together. -/
theorem labels_unresolved_of_extends (grows : Extends lookup other) (value : Json) :
    ∃ keep, labels (unresolved other (occurrencesIn value)) =
      (labels (unresolved lookup (occurrencesIn value))).filter keep := by
  refine ⟨fun label => (occurrencesIn value).any fun occurrence =>
    occurrence.target.label == label && (other occurrence.target).isNone, ?_⟩
  rw [labels, labels, List.filter_map, unresolved, unresolved, List.filter_filter]
  congr 1
  refine List.filter_congr fun occurrence member => ?_
  rw [Bool.eq_iff_iff]
  simp only [Function.comp_apply, Bool.and_eq_true, List.any_eq_true, beq_iff_eq,
    Option.isNone_iff_eq_none]
  constructor
  · intro nothing
    exact ⟨⟨occurrence, member, rfl, nothing⟩, grows.eq_none nothing⟩
  · rintro ⟨⟨twin, twinMember, sameLabel, nothing⟩, -⟩
    rwa [← (named_of_mem twinMember).eq_of_label (named_of_mem member) sameLabel]

/-- What is missing after more references got values was missing before, in the same order. -/
theorem sublist_of_extends (grows : Extends lookup other) (value : Json) :
    (FirstSeen.ofList (missingIn other value)).Sublist
      (FirstSeen.ofList (missingIn lookup value)) := by
  obtain ⟨keep, filtered⟩ := labels_unresolved_of_extends grows value
  rw [missingIn_eq, missingIn_eq, filtered, ← FirstSeen.filter_ofList]
  exact List.filter_sublist

/-- Steps that go on keep their identifiers, so that they are found as before. -/
theorem find?_of_advances (advance : List.Forall₂ Step.Advances steps others) (id : String) :
    (steps.find? (·.id == id) = none ∧ others.find? (·.id == id) = none) ∨
      ∃ old new, steps.find? (·.id == id) = some old ∧ others.find? (·.id == id) = some new ∧
        old.Advances new := by
  induction advance with
  | nil => exact .inl ⟨rfl, rfl⟩
  | @cons old new steps others advances rest ih =>
      have sameId : new.id = old.id := by
        rcases advances with rfl | ⟨-, -, same⟩
        · rfl
        · exact same
      rw [List.find?_cons, List.find?_cons, sameId]
      cases old.id == id with
      | true => exact .inr ⟨old, new, rfl, rfl, advances⟩
      | false => exact ih

/-- While steps go on, references keep their values. -/
theorem extends_of_advances (advance : List.Forall₂ Step.Advances steps others) (input : String) :
    Extends (value? steps input) (value? others input) := by
  intro reference found isValue
  obtain ⟨root, isRoot, below⟩ := Option.bind_eq_some_iff.1 isValue
  refine Option.bind_eq_some_iff.2 ⟨root, ?_, below⟩
  rcases find?_of_advances advance reference.id with
    ⟨absent, stillAbsent⟩ | ⟨old, new, isOld, isNew, rfl | ⟨unfinished, -, -⟩⟩
  · rw [root?, stillAbsent]
    rwa [root?, absent] at isRoot
  · rw [root?, isNew]
    rwa [root?, isOld] at isRoot
  · simp [root?, isOld, unfinished] at isRoot

/--
The list of what is missing names just the references in the arguments that denote nothing, each
once and in the order in which they are first met. When more steps have succeeded, the list is a
part of what it was, in the same order.
-/
theorem missing_is_exact (steps : List Step) (input : String) (normal : value.Normal) :
    Lists (Reference.Denotes steps input) value (resolve steps input value).missing ∧
      ∀ others, List.Forall₂ Step.Advances steps others →
        (resolve others input value).missing.Sublist (resolve steps input value).missing := by
  constructor
  · exact lists_missing (finds_value? steps input) normal
  · intro others advance
    exact sublist_of_extends (extends_of_advances advance input) value

/-- The steps of a letter: a search with a hit, and a draft that has not been written. -/
def letterSteps : List Step :=
  [{ Step.new "search" "find" .null with
      status := .succeeded, result := some (.object [("hits", .array [.string "printer"])]) },
    .new "draft" "write" .null]

/-- The same steps once the draft has been written. -/
def writtenLetter : List Step :=
  [{ Step.new "search" "find" .null with
      status := .succeeded, result := some (.object [("hits", .array [.string "printer"])]) },
    { Step.new "draft" "write" .null with
      status := .succeeded, result := some (.object [("body", .string "Dear printer")]) }]

/-- The arguments of a mail, which ask for the draft twice and for hits that there are not. -/
def mailArguments : Json :=
  .object
    [("body", .string "\x7b\x7b draft.body \x7d\x7d, \x7b\x7binput\x7d\x7d"),
      ("copies", .array
        [.string "\x7b\x7bsearch.hits.1\x7d\x7d", .string "\x7b\x7bdraft.body\x7d\x7d",
          .string "\x7b\x7bsearch.hits.0\x7d\x7d"])]

/-- The mail misses the draft and a second hit, and only the hit when the draft has been written. -/
theorem missing_is_exact_mail :
    mailArguments.Normal ∧ List.Forall₂ Step.Advances letterSteps writtenLetter ∧
    Lists (Reference.Denotes letterSteps "Yours") mailArguments ["draft.body", "search.hits.1"] ∧
    (resolve writtenLetter "Yours" mailArguments).missing = ["search.hits.1"] ∧
    ["search.hits.1"].Sublist ["draft.body", "search.hits.1"] := by
  have sorted : ["body", "copies"].Pairwise (· < ·) := by decide
  have normal : mailArguments.Normal :=
    ⟨sorted, trivial, ⟨trivial, trivial, trivial, trivial⟩, trivial⟩
  have advance : List.Forall₂ Step.Advances letterSteps writtenLetter :=
    .cons (.inl rfl) (.cons (.inr ⟨by decide, rfl, rfl⟩) .nil)
  have missing : (resolve letterSteps "Yours" mailArguments).missing =
      ["draft.body", "search.hits.1"] := by decide +kernel
  have left : (resolve writtenLetter "Yours" mailArguments).missing = ["search.hits.1"] := by
    decide +kernel
  obtain ⟨lists, shrinks⟩ := missing_is_exact letterSteps "Yours" normal
  have part := shrinks writtenLetter advance
  rw [missing] at lists part
  rw [left] at part
  exact ⟨normal, advance, lists, left, part⟩

/-- Two steps with one identifier, of which the second one has succeeded. -/
def sharedSteps : List Step :=
  [.new "draft" "write" .null,
    { Step.new "draft" "write" .null with status := .succeeded, result := some (.string "text") }]

/-- A reference is missing although a step that it names has a result, because another step with the
same identifier comes first. -/
theorem second_namesake_is_not_asked :
    (∀ place target, Occurs (.string "\x7b\x7bdraft\x7d\x7d") place target →
      ∃ step ∈ sharedSteps, step.id = target.id ∧ step.status = .succeeded ∧
        ∃ root value, step.result = some root ∧ Json.At target.path root value) ∧
    (resolve sharedSteps "" (.string "\x7b\x7bdraft\x7d\x7d")).missing = ["draft"] := by
  constructor
  · intro place target occurs
    have listed : occurrencesIn (.string "\x7b\x7bdraft\x7d\x7d") =
        [⟨.offset 0, ⟨"draft", []⟩⟩] := by decide +kernel
    have member := (mem_occurrencesIn_iff _).2 occurs
    rw [listed, List.mem_singleton] at member
    cases member
    exact ⟨_, List.mem_cons_of_mem _ List.mem_cons_self, rfl, rfl, _, _, rfl, .here _⟩
  · decide +kernel

end Template

end PlanRunner
