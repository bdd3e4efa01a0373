import Mathlib.Data.List.Infix
import PlanRunner.Replan.Brief
import PlanRunner.Run.Turn

/-!
# What messages give away

A message belongs to a category if it has one of the texts of the category in it, whatever the case
of its letters, and whatever else it says. The messages that runs write themselves, for missing
inputs and for calls that take too long, belong to the categories of these failures, and the
strategy follows from that.
-/

namespace PlanRunner

/-! ## Small letters -/

namespace Text

/-- A character that stays as it is in small letters, whatever its neighbours. -/
def IsSmall (character : Char) : Prop :=
  character ≠ '\u03a3' ∧ lowercaseCharacter character = [character]

/-- A character of the basic Latin block that is no capital letter. -/
def IsBasicSmall (character : Char) : Prop :=
  character.toNat < 0x41 ∨ 0x5A < character.toNat ∧ character.toNat < 0x80

instance (character : Char) : Decidable (IsBasicSmall character) :=
  inferInstanceAs (Decidable (_ ∨ _))

theorem IsBasicSmall.isSmall {character : Char} (basic : IsBasicSmall character) :
    IsSmall character := by
  have notSigma : character ≠ '\u03a3' := by
    rintro rfl
    revert basic
    decide
  have notDotted : character ≠ '\u0130' := by
    rintro rfl
    revert basic
    decide
  -- The first run of letters with case ends at 0x5A, and the second one starts at 0xC0.
  have shift : caseShift caseRuns character.toNat = 0 := by
    change (if character.toNat < 0x41 then 0 else if character.toNat ≤ 0x5A then _
      else if character.toNat < 0xC0 then 0 else _) = (0 : Int)
    rcases basic with low | ⟨high, bound⟩
    · rw [if_pos low]
    · rw [if_neg (by omega), if_neg (by omega), if_pos (by omega)]
  refine ⟨notSigma, ?_⟩
  rw [lowercaseCharacter, if_neg notDotted, shift, Int.add_zero, Int.toNat_natCast,
    Char.ofNat_toNat]

/-- What a text starts with stays there if it is in small letters. -/
theorem lowercaseAfter_append {first : List Char} (small : ∀ character ∈ first, IsSmall character)
    (before rest : List Char) :
    lowercaseAfter before (first ++ rest) =
      first ++ lowercaseAfter (first.reverse ++ before) rest := by
  induction first generalizing before with
  | nil => rfl
  | cons character others ih =>
      obtain ⟨⟨notSigma, same⟩, othersSmall⟩ := List.forall_mem_cons.1 small
      rw [List.cons_append, lowercaseAfter, if_neg notSigma, same, ih othersSmall]
      simp

theorem prefix_lowercase_append {first : String}
    (small : ∀ character ∈ first.toList, IsSmall character) (rest : String) :
    first.toList <+: (lowercase (first ++ rest)).toList := by
  rw [lowercase, String.toList_ofList, String.toList_append, lowercaseAfter_append small]
  exact List.prefix_append _ _

end Text

namespace Replan

variable {category : Category} {message needle : String} {messages patterns : List String}

/-! ## Categories -/

theorem occursIn_iff {needle text : List Char} :
    occursIn needle text = true ↔ needle <:+: text := by
  induction text with
  | nil => simp [occursIn]
  | cons character rest ih =>
      rw [occursIn, Bool.or_eq_true, List.isPrefixOf_iff_prefix, ih, List.infix_cons_iff]

theorem Category.covers_iff {text : String} :
    category.covers text = true ↔ ∃ needle ∈ category.needles, needle.toList <:+: text.toList := by
  simp only [covers, List.any_eq_true, occursIn_iff]

/-- A category covers all messages that start with one of its texts, in small letters. -/
theorem Category.covers_append {first : String} (isNeedle : needle ∈ category.needles)
    (starts : needle.toList <:+: first.toList)
    (basic : first.toList.all (Text.IsBasicSmall ·) = true) (rest : String) :
    category.covers (Text.lowercase (first ++ rest)) = true := by
  have small : ∀ character ∈ first.toList, Text.IsSmall character := fun character member =>
    (of_decide_eq_true (List.all_eq_true.1 basic character member)).isSmall
  have starting := Text.prefix_lowercase_append small rest
  exact covers_iff.2 ⟨needle, isNeedle, starts.trans starting.isInfix⟩

/-- The categories of one message are among the patterns, whatever the other messages. -/
theorem tag_mem_patterns (member : message ∈ messages) (known : category ∈ categories)
    (covers : category.covers (Text.lowercase message) = true) :
    category.tag ∈ Replan.patterns messages := by
  refine FirstSeen.mem_ofList.2 (List.mem_flatMap.2 ⟨message, member, ?_⟩)
  exact List.mem_append_right _ (List.mem_map_of_mem (List.mem_filter.2 ⟨known, covers⟩))

/-! ## The messages of runs -/

/-- The message for missing inputs gives them away, whatever the labels. -/
theorem missingInputs_mem_patterns {labels : List String}
    (isMissing : Answer.missingInputs labels = .failure message) (member : message ∈ messages) :
    "missing_inputs" ∈ Replan.patterns messages := by
  obtain rfl := Answer.failure.inj isMissing
  have covers : Category.covers ⟨"missing_inputs", ["missing input"]⟩
      (Text.lowercase ("missing inputs: " ++ String.intercalate ", " labels)) = true :=
    Category.covers_append List.mem_cons_self (by decide) rfl _
  exact tag_mem_patterns member (by decide) covers

/-- The message for a call that takes too long gives that away, whatever the time limit. -/
theorem timeout_mem_patterns {seconds : UInt64}
    (isLate : Answer.timedOut seconds = .failure message) (member : message ∈ messages) :
    "timeout" ∈ Replan.patterns messages := by
  obtain rfl := Answer.failure.inj isLate
  rw [String.append_assoc] at member
  have covers : Category.covers ⟨"timeout", ["timed out", "timeout"]⟩
      (Text.lowercase ("timed out after " ++ (toString seconds ++ "s"))) = true :=
    Category.covers_append List.mem_cons_self (by decide) rfl _
  exact tag_mem_patterns member (by decide) covers

/-! ## Strategies -/

/-- Missing inputs come first, whatever other patterns there are. -/
theorem suggestStrategy_of_missingInputs (missing : "missing_inputs" ∈ patterns)
    (signalsOnly : Bool) : suggestStrategy patterns signalsOnly = "gather_missing_inputs" :=
  if_pos missing

/-- Only missing inputs come before a call that took too long. -/
theorem suggestStrategy_of_timeout (late : "timeout" ∈ patterns) (signalsOnly : Bool) :
    suggestStrategy patterns signalsOnly =
      if "missing_inputs" ∈ patterns then "gather_missing_inputs" else "retry_with_backoff" := by
  have worthRetrying :
      "timeout" ∈ patterns ∨ "network_error" ∈ patterns ∨ "rate_limited" ∈ patterns := .inl late
  rw [suggestStrategy, if_pos worthRetrying]

end Replan

end PlanRunner
