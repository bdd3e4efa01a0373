/-!
# Sets of identifiers

A set of identifiers is kept as the list of its members in strictly increasing order, so that equal
sets are equal lists and the members are always visited in the same order.
-/

namespace PlanRunner

/-- A finite set of identifiers, listed in increasing order. -/
structure IdSet where
  ids : List String
  sorted : ids.Pairwise (· < ·)
  deriving DecidableEq

namespace IdSet

/-- Puts an identifier at its place in an increasing list. -/
def insertIn (id : String) : List String → List String
  | [] => [id]
  | first :: rest =>
      if id < first then id :: first :: rest
      else if id = first then first :: rest
      else first :: insertIn id rest

theorem mem_insertIn {id other : String} {ids : List String} :
    other ∈ insertIn id ids ↔ other = id ∨ other ∈ ids := by
  induction ids with
  | nil => simp [insertIn]
  | cons first rest ih =>
      simp only [insertIn]
      split
      · simp
      · split
        · simp_all
        · simp only [List.mem_cons, ih]
          grind

theorem sorted_insertIn {id : String} {ids : List String} (sorted : ids.Pairwise (· < ·)) :
    (insertIn id ids).Pairwise (· < ·) := by
  induction ids with
  | nil => simp [insertIn]
  | cons first rest ih =>
      simp only [insertIn]
      rw [List.pairwise_cons] at sorted
      split
      · rename_i before
        refine List.pairwise_cons.2 ⟨?_, List.pairwise_cons.2 sorted⟩
        intro other member
        rcases List.mem_cons.1 member with rfl | member
        · exact before
        · exact String.lt_trans before (sorted.1 other member)
      · split
        · exact List.pairwise_cons.2 sorted
        · rename_i notBefore different
          refine List.pairwise_cons.2 ⟨?_, ih sorted.2⟩
          intro other member
          rcases mem_insertIn.1 member with rfl | member
          · exact Std.lt_of_le_of_ne (String.not_lt.1 notBefore) (Ne.symm different)
          · exact sorted.1 other member

/-- The set without members. -/
def empty : IdSet := ⟨[], List.Pairwise.nil⟩

instance : EmptyCollection IdSet := ⟨empty⟩

instance : Inhabited IdSet := ⟨empty⟩

/-- A set with one more member. -/
def insert (set : IdSet) (id : String) : IdSet :=
  ⟨insertIn id set.ids, sorted_insertIn set.sorted⟩

/-- A set together with the members of a list. -/
def insertAll (set : IdSet) (ids : List String) : IdSet :=
  ids.foldl insert set

/-- The set of the members of a list. -/
def ofList (ids : List String) : IdSet :=
  empty.insertAll ids

/-- A set without one member. -/
def erase (set : IdSet) (id : String) : IdSet :=
  ⟨set.ids.filter (· ≠ id), set.sorted.filter _⟩

instance : Membership String IdSet := ⟨fun set id => id ∈ set.ids⟩

instance (id : String) (set : IdSet) : Decidable (id ∈ set) :=
  inferInstanceAs (Decidable (id ∈ set.ids))

@[simp] theorem mem_ids {id : String} {set : IdSet} : id ∈ set.ids ↔ id ∈ set := Iff.rfl

@[simp] theorem mem_insert {id other : String} {set : IdSet} :
    other ∈ set.insert id ↔ other = id ∨ other ∈ set := mem_insertIn

@[simp] theorem mem_erase {id other : String} {set : IdSet} :
    other ∈ set.erase id ↔ other ∈ set ∧ other ≠ id := by
  simp [← mem_ids, erase]

theorem mem_insertAll {id : String} {set : IdSet} {ids : List String} :
    id ∈ set.insertAll ids ↔ id ∈ set ∨ id ∈ ids := by
  induction ids generalizing set with
  | nil => simp [insertAll]
  | cons first rest ih =>
      have unfolded : set.insertAll (first :: rest) = (set.insert first).insertAll rest := rfl
      rw [unfolded, ih, mem_insert, List.mem_cons]
      grind

@[simp] theorem mem_ofList {id : String} {ids : List String} : id ∈ ofList ids ↔ id ∈ ids := by
  have unfolded : ofList ids = empty.insertAll ids := rfl
  rw [unfolded, mem_insertAll]
  simp [← mem_ids, empty]

/-- Two sets with the same members are the same. -/
theorem ext_members {first second : IdSet} (same : ∀ id, id ∈ first ↔ id ∈ second) :
    first = second := by
  obtain ⟨left, leftSorted⟩ := first
  obtain ⟨right, rightSorted⟩ := second
  have lists : left = right := by
    induction left generalizing right with
    | nil =>
        cases right with
        | nil => rfl
        | cons id _ => exact absurd ((same id).2 List.mem_cons_self) List.not_mem_nil
    | cons least rest ih =>
        cases right with
        | nil => exact absurd ((same least).1 List.mem_cons_self) List.not_mem_nil
        | cons other more =>
            have leftOrder := List.pairwise_cons.1 leftSorted
            have rightOrder := List.pairwise_cons.1 rightSorted
            have heads : least = other := by
              rcases List.mem_cons.1 ((same least).1 List.mem_cons_self) with equal | later
              · exact equal
              · rcases List.mem_cons.1 ((same other).2 List.mem_cons_self) with equal | earlier
                · exact equal.symm
                · exact absurd (leftOrder.1 other earlier)
                    (String.lt_asymm (rightOrder.1 least later))
            subst heads
            congr 1
            refine ih leftOrder.2 more rightOrder.2 fun id => ?_
            have here := same id
            simp only [← mem_ids, List.mem_cons] at here ⊢
            constructor
            · intro member
              have := (String.lt_irrefl _ : ¬least < least)
              have := leftOrder.1 id member
              grind
            · intro member
              have := (String.lt_irrefl _ : ¬least < least)
              have := rightOrder.1 id member
              grind
  subst lists
  rfl

end IdSet

end PlanRunner
