/-!
# First occurrences

A list without repetitions, in which every text stands where it was first seen.
-/

namespace PlanRunner.FirstSeen

/-- Adds a text at the end, unless it is there already. -/
def add (known : List String) (text : String) : List String :=
  if text ∈ known then known else known ++ [text]

/-- Adds texts in order, leaving out those that are there already. -/
def addAll (known more : List String) : List String :=
  more.foldl add known

/-- The first occurrences in a list. -/
def ofList (texts : List String) : List String :=
  addAll [] texts

@[simp] theorem mem_add {known : List String} {text other : String} :
    other ∈ add known text ↔ other ∈ known ∨ other = text := by
  unfold add
  split <;> simp_all

theorem nodup_add {known : List String} (distinct : known.Nodup) (text : String) :
    (add known text).Nodup := by
  unfold add
  split
  · exact distinct
  · rename_i absent
    refine List.nodup_append.2 ⟨distinct, by simp, ?_⟩
    intro member isKnown other isText
    rintro rfl
    exact absent (List.mem_singleton.1 isText ▸ isKnown)

theorem addAll_append (known first second : List String) :
    addAll known (first ++ second) = addAll (addAll known first) second := by
  simp [addAll]

theorem mem_addAll {known more : List String} {text : String} :
    text ∈ addAll known more ↔ text ∈ known ∨ text ∈ more := by
  induction more generalizing known with
  | nil => simp [addAll]
  | cons first rest ih =>
      have unfolded : addAll known (first :: rest) = addAll (add known first) rest := rfl
      rw [unfolded, ih, mem_add, List.mem_cons]
      grind

theorem nodup_addAll {known : List String} (distinct : known.Nodup) (more : List String) :
    (addAll known more).Nodup := by
  induction more generalizing known with
  | nil => exact distinct
  | cons first rest ih => exact ih (nodup_add distinct first)

theorem nodup_ofList (texts : List String) : (ofList texts).Nodup :=
  nodup_addAll List.nodup_nil texts

@[simp] theorem mem_ofList {texts : List String} {text : String} :
    text ∈ ofList texts ↔ text ∈ texts := by
  simp [ofList, mem_addAll]

/-- Only texts that are not there already are added, and each of them once. -/
theorem addAll_eq (known more : List String) :
    addAll known more = known ++ (ofList more).filter (· ∉ known) := by
  induction more generalizing known with
  | nil => simp [addAll, ofList]
  | cons text rest ih =>
      have first : addAll known (text :: rest) = addAll (add known text) rest := rfl
      have alone : ofList (text :: rest) = addAll [text] rest := rfl
      rw [first, alone, ih, ih [text], add, List.filter_append, List.filter_filter]
      by_cases isKnown : text ∈ known
      · rw [if_pos isKnown]
        grind
      · rw [if_neg isKnown]
        grind

theorem addAll_of_subset {known more : List String} (subset : ∀ text ∈ more, text ∈ known) :
    addAll known more = known := by
  have nothing : (ofList more).filter (· ∉ known) = [] := by
    refine List.filter_eq_nil_iff.2 fun text member => ?_
    simpa using subset text (mem_ofList.1 member)
  rw [addAll_eq, nothing, List.append_nil]

theorem ofList_append (first second : List String) :
    ofList (first ++ second) = ofList first ++ (ofList second).filter (· ∉ ofList first) := by
  rw [ofList, addAll_append, addAll_eq]
  rfl

/-- Texts that have been seen before change nothing. -/
theorem ofList_append_append {first more : List String} (subset : ∀ text ∈ more, text ∈ first)
    (last : List String) : ofList (first ++ (more ++ last)) = ofList (first ++ last) := by
  have known : ∀ text ∈ more, text ∈ addAll [] first := fun text member =>
    mem_addAll.2 (.inr (subset text member))
  simp only [ofList, addAll_append, addAll_of_subset known]

theorem ofList_eq_nil_iff {texts : List String} : ofList texts = [] ↔ texts = [] := by
  simp only [List.eq_nil_iff_forall_not_mem, mem_ofList]

end PlanRunner.FirstSeen
