/-!
# Entries in key order

Entries with text keys, listed in strictly increasing key order. Putting an entry under a key that
is already there takes the place of the old one.
-/

namespace PlanRunner.Keyed

variable {α : Type}

/-- The keys of the entries stand in strictly increasing order. -/
def Sorted (entries : List (String × α)) : Prop :=
  (entries.map Prod.fst).Pairwise (· < ·)

/-- Puts a value under a key. -/
def insert (key : String) (value : α) : List (String × α) → List (String × α)
  | [] => [(key, value)]
  | (first, old) :: rest =>
      if key < first then (key, value) :: (first, old) :: rest
      else if key = first then (key, value) :: rest
      else (first, old) :: insert key value rest

/-- Entries in key order from entries in any order; of several under one key the last one stays. -/
def ofList (entries : List (String × α)) : List (String × α) :=
  entries.foldl (fun sorted (key, value) => insert key value sorted) []

/-- The entry put last is found under its key, and the other keys keep their entries. -/
theorem lookup_insert (key other : String) (value : α) (entries : List (String × α)) :
    (insert key value entries).lookup other =
      if other = key then some value else entries.lookup other := by
  induction entries with
  | nil => by_cases same : other = key <;> simp_all [insert, List.lookup_cons, beq_false_of_ne]
  | cons entry rest ih =>
      obtain ⟨first, old⟩ := entry
      simp only [insert]
      split
      · by_cases same : other = key <;> simp_all [List.lookup_cons, beq_false_of_ne]
      · split
        · rename_i same
          subst same
          by_cases same : other = key <;> simp_all [List.lookup_cons, beq_false_of_ne]
        · rename_i different
          simp only [List.lookup_cons, ih]
          by_cases isFirst : other = first
          · subst isFirst
            simpa using fun same : other = key => absurd same.symm different
          · simp [isFirst, beq_false_of_ne]

theorem mem_keys_insert {key other : String} {value : α} {entries : List (String × α)} :
    other ∈ (insert key value entries).map Prod.fst ↔
      other = key ∨ other ∈ entries.map Prod.fst := by
  induction entries with
  | nil => simp [insert]
  | cons entry rest ih =>
      obtain ⟨first, old⟩ := entry
      simp only [insert]
      split
      · simp
      · split
        · rename_i same
          simp [same]
        · simp only [List.map_cons, List.mem_cons, ih]
          grind

theorem sorted_insert (key : String) (value : α) {entries : List (String × α)}
    (sorted : Sorted entries) : Sorted (insert key value entries) := by
  induction entries with
  | nil => simp [insert, Sorted]
  | cons entry rest ih =>
      obtain ⟨first, old⟩ := entry
      have parts := sorted
      simp only [Sorted, List.map_cons, List.pairwise_cons] at parts
      simp only [insert]
      split
      · rename_i before
        simp only [Sorted, List.map_cons, List.pairwise_cons, List.mem_cons]
        refine ⟨?_, parts⟩
        rintro other (rfl | member)
        · exact before
        · exact String.lt_trans before (parts.1 other member)
      · split
        · rename_i same
          subst same
          simpa [Sorted] using parts
        · rename_i notBefore different
          simp only [Sorted, List.map_cons, List.pairwise_cons]
          refine ⟨?_, ih parts.2⟩
          intro other member
          rcases mem_keys_insert.1 member with rfl | member
          · exact Std.lt_of_le_of_ne (String.not_lt.1 notBefore) (Ne.symm different)
          · exact parts.1 other member

theorem sorted_ofList (entries : List (String × α)) : Sorted (ofList entries) := by
  have extended : ∀ sorted : List (String × α), Sorted sorted →
      Sorted (entries.foldl (fun sorted (key, value) => insert key value sorted) sorted) := by
    induction entries with
    | nil => exact fun _ sorted => sorted
    | cons entry rest ih => exact fun _ sorted => ih _ (sorted_insert _ _ sorted)
  exact extended [] (by simp [Sorted])

/-- A key behind all others is put at the end. -/
theorem insert_of_forall_lt {key : String} (value : α) {entries : List (String × α)}
    (behind : ∀ entry ∈ entries, entry.1 < key) :
    insert key value entries = entries ++ [(key, value)] := by
  induction entries with
  | nil => rfl
  | cons entry rest ih =>
      obtain ⟨first, old⟩ := entry
      have before : first < key := behind (first, old) List.mem_cons_self
      have notBefore : ¬key < first := fun after => String.lt_asymm before after
      have different : key ≠ first := fun same => String.lt_irrefl _ (same ▸ before)
      rw [insert, if_neg notBefore, if_neg different,
        ih fun other member => behind other (List.mem_cons_of_mem _ member), List.cons_append]

/-- Entries in key order stay as they are. -/
theorem ofList_of_sorted {entries : List (String × α)} (sorted : Sorted entries) :
    ofList entries = entries := by
  have appended : ∀ before : List (String × α), Sorted (before ++ entries) →
      entries.foldl (fun sorted (key, value) => insert key value sorted) before =
        before ++ entries := by
    clear sorted
    induction entries with
    | nil => simp
    | cons entry rest ih =>
        intro before sorted
        obtain ⟨key, value⟩ := entry
        have behind : ∀ entry ∈ before, entry.1 < key := by
          unfold Sorted at sorted
          rw [List.map_append, List.pairwise_append] at sorted
          exact fun entry member =>
            sorted.2.2 entry.1 (List.mem_map_of_mem member) key (by simp)
        simp only [List.foldl_cons, insert_of_forall_lt value behind]
        simpa using ih (before ++ [(key, value)]) (by simpa using sorted)
  exact appended [] sorted

theorem mem_of_mem_insert {key : String} {value : α} {entries : List (String × α)}
    {entry : String × α} (member : entry ∈ insert key value entries) :
    entry = (key, value) ∨ entry ∈ entries := by
  induction entries with
  | nil => simpa [insert] using member
  | cons first rest ih =>
      simp only [insert] at member
      split at member
      · simpa using member
      · split at member
        · rcases List.mem_cons.1 member with rfl | later
          · exact .inl rfl
          · exact .inr (List.mem_cons_of_mem _ later)
        · rcases List.mem_cons.1 member with rfl | later
          · exact .inr List.mem_cons_self
          · exact (ih later).imp_right (List.mem_cons_of_mem _)

theorem mem_of_mem_ofList {entries : List (String × α)} {entry : String × α}
    (member : entry ∈ ofList entries) : entry ∈ entries := by
  have origin : ∀ sorted : List (String × α),
      entry ∈ entries.foldl (fun sorted (key, value) => insert key value sorted) sorted →
        entry ∈ sorted ∨ entry ∈ entries := by
    clear member
    induction entries with
    | nil => exact fun _ => .inl
    | cons first rest ih =>
        intro sorted member
        rcases ih _ member with early | later
        · rcases mem_of_mem_insert early with rfl | known
          · exact .inr List.mem_cons_self
          · exact .inl known
        · exact .inr (List.mem_cons_of_mem _ later)
  simpa using origin [] member

theorem lookup_eq_none {entries : List (String × α)} {key : String}
    (absent : key ∉ entries.map Prod.fst) : entries.lookup key = none := by
  refine List.lookup_eq_none_iff.2 fun entry member => bne_iff_ne.2 ?_
  rintro rfl
  exact absent (List.mem_map_of_mem member)

theorem lookup_eq_some_iff {entries : List (String × α)} {key : String} {value : α}
    (distinct : (entries.map Prod.fst).Nodup) :
    entries.lookup key = some value ↔ (key, value) ∈ entries := by
  induction entries with
  | nil => simp
  | cons entry rest ih =>
      obtain ⟨first, old⟩ := entry
      obtain ⟨absent, others⟩ := List.nodup_cons.1 distinct
      rw [List.lookup_cons, List.mem_cons, Prod.mk.injEq]
      by_cases same : key = first
      · subst same
        have noOther : (key, value) ∉ rest := fun member =>
          absent (List.mem_map.2 ⟨(key, value), member, rfl⟩)
        simp [noOther, eq_comm]
      · simp [same, beq_false_of_ne same, ih others]

/-- Of entries with different keys each is found under its own. -/
theorem lookup_ofList {entries : List (String × α)} (distinct : (entries.map Prod.fst).Nodup)
    (key : String) : (ofList entries).lookup key = entries.lookup key := by
  have extended : ∀ sorted : List (String × α),
      (entries.foldl (fun sorted (key, value) => insert key value sorted) sorted).lookup key =
        (entries.lookup key).or (sorted.lookup key) := by
    induction entries with
    | nil => exact fun _ => rfl
    | cons entry rest ih =>
        intro sorted
        obtain ⟨first, value⟩ := entry
        obtain ⟨absent, others⟩ := List.nodup_cons.1 distinct
        rw [List.foldl_cons, ih others, lookup_insert, List.lookup_cons]
        by_cases same : key = first
        · subst same
          simp [lookup_eq_none absent]
        · simp [same, beq_false_of_ne]
  simpa [ofList] using extended []

end PlanRunner.Keyed
