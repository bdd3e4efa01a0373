import Mathlib.Data.List.Nodup
import PlanRunner.Proofs.Replan.Patterns

/-!
# Patterns of several messages

The patterns of a list of messages are those of its first part, and behind them the new ones of its
second part. Every pattern is a category or is made of words that tell something, and a category
comes up exactly if a message has one of its texts in it or has its tag for words.
-/

namespace PlanRunner.Replan

variable {message pattern word : String} {messages first second : List String}
  {category : Category}

/-! ## Words -/

/-- A word of letters and digits that is neither short nor a stop word. -/
structure IsKeyword (word : String) : Prop where
  alphanumeric : ∀ character ∈ word.toList, Text.isAlphanumeric character = true
  long : 3 ≤ word.length
  telling : word ∉ stopWords

/-- The words of a message in one text, which is empty if there are none. -/
def keywordText (message : String) : String :=
  String.intercalate "_" (keywords (Text.lowercase message))

/-- Only letters and digits are put into words. -/
theorem isAlphanumeric_of_mem_wordsAfter {before text word : List Char}
    (start : ∀ character ∈ before, Text.isAlphanumeric character = true)
    (member : word ∈ wordsAfter before text) :
    ∀ character ∈ word, Text.isAlphanumeric character = true := by
  induction text generalizing before with
  | nil =>
      rw [wordsAfter, List.mem_singleton] at member
      exact member ▸ start
  | cons next rest ih =>
      rw [wordsAfter] at member
      split at member
      · rename_i goesOn
        refine ih (fun character member => ?_) member
        rcases List.mem_append.1 member with early | last
        · exact start character early
        · exact List.mem_singleton.1 last ▸ goesOn
      · rcases List.mem_cons.1 member with rfl | later
        · exact start
        · exact ih (by simp) later

theorem isKeyword_of_mem_keywords {text : String} (member : word ∈ keywords text) :
    IsKeyword word := by
  obtain ⟨isWord, telling⟩ := List.mem_filter.1 (List.mem_of_mem_take member)
  rw [isTelling, Bool.and_eq_true, decide_eq_true_eq, Bool.not_eq_true', List.contains_eq_mem,
    decide_eq_false_iff_not] at telling
  obtain ⟨characters, isRun, rfl⟩ := List.mem_map.1 isWord
  refine ⟨?_, telling.1, telling.2⟩
  rw [String.toList_ofList]
  exact isAlphanumeric_of_mem_wordsAfter (by simp) isRun

theorem length_keywords_le (text : String) : (keywords text).length ≤ 4 :=
  List.length_take_le _ _

theorem IsKeyword.ne_empty (isKeyword : IsKeyword word) : word ≠ "" := by
  rintro rfl
  exact absurd isKeyword.long (by decide)

/-- Words in one text do not vanish. -/
theorem keywordText_eq_empty_iff :
    keywordText message = "" ↔ keywords (Text.lowercase message) = [] := by
  rw [keywordText]
  cases words : keywords (Text.lowercase message) with
  | nil => simp
  | cons first rest =>
      have isKeyword : IsKeyword first := isKeyword_of_mem_keywords (words ▸ List.mem_cons_self)
      cases rest with
      | nil => simpa using isKeyword.ne_empty
      | cons second rest => simp [String.intercalate_cons_cons, isKeyword.ne_empty]

/-! ## Patterns of messages -/

theorem tag_ne_empty (known : category ∈ categories) : category.tag ≠ "" := by
  revert category
  decide

theorem eq_of_tag_eq {other : Category} (known : category ∈ categories)
    (otherKnown : other ∈ categories) (same : category.tag = other.tag) : category = other :=
  List.inj_on_of_nodup_map (f := Category.tag) (by decide) known otherKnown same

/-- What the patterns of one message are: the text of its words, and the categories that it has. -/
theorem mem_patternsOf_iff :
    pattern ∈ patternsOf message ↔
      (pattern = keywordText message ∧ pattern ≠ "") ∨
      ∃ category ∈ categories,
        category.covers (Text.lowercase message) = true ∧ category.tag = pattern := by
  have told : pattern = keywordText message →
      (pattern ≠ "" ↔ (keywords (Text.lowercase message)).isEmpty = false) := by
    rintro rfl
    rw [ne_eq, keywordText_eq_empty_iff, ← List.isEmpty_iff, Bool.not_eq_true]
  simp only [patternsOf, List.mem_append, List.mem_map, List.mem_filter, and_assoc]
  refine or_congr_left ?_
  split
  · rename_i nothing
    simp only [List.not_mem_nil, false_iff, not_and]
    exact fun same some => by simp [(told same).1 some] at nothing
  · rename_i some
    rw [List.mem_singleton]
    exact ⟨fun same => ⟨same, (told same).2 (Bool.not_eq_true _ ▸ some)⟩, And.left⟩

theorem mem_patterns_iff :
    pattern ∈ patterns messages ↔ ∃ message ∈ messages, pattern ∈ patternsOf message := by
  rw [patterns, FirstSeen.mem_ofList, List.mem_flatMap]

theorem patterns_append (first second : List String) :
    patterns (first ++ second) =
      patterns first ++ (patterns second).filter (· ∉ patterns first) := by
  rw [patterns, List.flatMap_append, FirstSeen.ofList_append]
  rfl

/-- A message that has come up before gives no new patterns. -/
theorem patterns_append_cons (member : message ∈ first) (second : List String) :
    patterns (first ++ message :: second) = patterns (first ++ second) := by
  have known : ∀ pattern ∈ patternsOf message, pattern ∈ first.flatMap patternsOf :=
    fun pattern isPattern => List.mem_flatMap.2 ⟨message, member, isPattern⟩
  rw [patterns, patterns, List.flatMap_append, List.flatMap_append, List.flatMap_cons,
    FirstSeen.ofList_append_append known]

theorem empty_not_mem_patterns : "" ∉ patterns messages := by
  intro member
  obtain ⟨message, -, isPattern⟩ := mem_patterns_iff.1 member
  rcases mem_patternsOf_iff.1 isPattern with ⟨-, some⟩ | ⟨category, known, -, isTag⟩
  · exact some rfl
  · exact tag_ne_empty known isTag

/-- What a pattern can be. -/
theorem tag_or_keywords (member : pattern ∈ patterns messages) :
    (∃ category ∈ categories, category.tag = pattern) ∨
      ∃ words : List String, String.intercalate "_" words = pattern ∧ words.length ≤ 4 ∧
        ∀ word ∈ words, IsKeyword word := by
  obtain ⟨message, -, isPattern⟩ := mem_patterns_iff.1 member
  rcases mem_patternsOf_iff.1 isPattern with ⟨rfl, -⟩ | ⟨category, known, -, isTag⟩
  · exact .inr ⟨keywords (Text.lowercase message), rfl, length_keywords_le _,
      fun _ => isKeyword_of_mem_keywords⟩
  · exact .inl ⟨category, known, isTag⟩

/-- Which messages bring up a category. -/
theorem tag_mem_patterns_iff (known : category ∈ categories) :
    category.tag ∈ patterns messages ↔
      ∃ message ∈ messages,
        (∃ needle ∈ category.needles, needle.toList <:+: (Text.lowercase message).toList) ∨
          keywordText message = category.tag := by
  rw [mem_patterns_iff]
  refine exists_congr fun message => and_congr_right fun _ => ?_
  rw [mem_patternsOf_iff, ← Category.covers_iff, or_comm]
  refine or_congr ⟨?_, fun covers => ⟨category, known, covers, rfl⟩⟩ ?_
  · rintro ⟨other, otherKnown, covers, same⟩
    exact eq_of_tag_eq otherKnown known same ▸ covers
  · exact ⟨fun tag => tag.1.symm, fun same => ⟨same.symm, tag_ne_empty known⟩⟩

/--
The patterns of two lists of messages together are those of the first one, and behind them those of
the second one that are new. No pattern is repeated or empty, and a message that is repeated changes
nothing. Every pattern is the tag of a category or at most four words of letters and digits, none of
them short or a stop word. A category comes up exactly if some message has one of its texts in it,
in small letters, or has its tag for words.
-/
theorem patterns_compose (first second : List String) :
    patterns (first ++ second) =
      patterns first ++ (patterns second).filter (· ∉ patterns first) ∧
    (patterns first).Nodup ∧ "" ∉ patterns first ∧
    (∀ message ∈ first, patterns (first ++ message :: second) = patterns (first ++ second)) ∧
    (∀ pattern ∈ patterns first,
      (∃ category ∈ categories, category.tag = pattern) ∨
        ∃ words : List String, String.intercalate "_" words = pattern ∧ words.length ≤ 4 ∧
          ∀ word ∈ words, IsKeyword word) ∧
    ∀ category ∈ categories,
      category.tag ∈ patterns first ↔
        ∃ message ∈ first,
          (∃ needle ∈ category.needles, needle.toList <:+: (Text.lowercase message).toList) ∨
            keywordText message = category.tag :=
  ⟨patterns_append first second, FirstSeen.nodup_ofList _, empty_not_mem_patterns,
    fun _ member => patterns_append_cons member second, fun _ => tag_or_keywords,
    fun _ => tag_mem_patterns_iff⟩

/-- Two messages whose words are tags, and a third one that repeats a category. -/
theorem patterns_compose_underscore :
    ("missing_inputs" ∈ ["missing_inputs", "Invalid Input"] ∧
      ⟨"missing_inputs", ["missing input"]⟩ ∈ categories) ∧
    patterns (["missing_inputs", "Invalid Input"] ++ ["missing_inputs", "DNS: invalid"]) =
      ["missing_inputs", "invalid_input", "dns_invalid", "network_error"] ∧
    patterns (["missing_inputs", "Invalid Input"] ++ ["missing_inputs", "DNS: invalid"]) =
      patterns (["missing_inputs", "Invalid Input"] ++ ["DNS: invalid"]) ∧
    ∃ message ∈ ["missing_inputs", "Invalid Input"],
      (∃ needle ∈ ["missing input"], needle.toList <:+: (Text.lowercase message).toList) ∨
        keywordText message = "missing_inputs" := by
  have member : "missing_inputs" ∈ ["missing_inputs", "Invalid Input"] := by decide
  have known : ⟨"missing_inputs", ["missing input"]⟩ ∈ categories := by decide
  have all : patterns (["missing_inputs", "Invalid Input"] ++ ["missing_inputs", "DNS: invalid"]) =
      ["missing_inputs", "invalid_input", "dns_invalid", "network_error"] := by decide +kernel
  obtain ⟨-, -, -, repeated, -, tags⟩ :=
    patterns_compose ["missing_inputs", "Invalid Input"] ["DNS: invalid"]
  have comesUp : "missing_inputs" ∈ patterns ["missing_inputs", "Invalid Input"] := by
    decide +kernel
  exact ⟨⟨member, known⟩, all, repeated _ member, (tags _ known).1 comesUp⟩

end PlanRunner.Replan
