/-!
# Entries in the order of their ranks

Entries are put into the order of numbers that they are ranked by. Entries of one rank stay in the
order in which they stood.
-/

namespace PlanRunner.Ranked

variable {α : Type}

/-- Puts an entry before all entries of its own rank or a higher one. -/
def insert (rank : α → Nat) (entry : α) : List α → List α
  | [] => [entry]
  | first :: rest =>
      if rank entry ≤ rank first then entry :: first :: rest else first :: insert rank entry rest

/-- Entries in the order of their ranks. -/
def sort (rank : α → Nat) : List α → List α
  | [] => []
  | first :: rest => insert rank first (sort rank rest)

theorem insert_perm (rank : α → Nat) (entry : α) (entries : List α) :
    (insert rank entry entries).Perm (entry :: entries) := by
  induction entries with
  | nil => exact .refl _
  | cons first rest ih =>
      simp only [insert]
      split
      · exact .refl _
      · exact (ih.cons first).trans (.swap entry first rest)

/-- No entry gets lost, and none is added. -/
theorem sort_perm (rank : α → Nat) (entries : List α) : (sort rank entries).Perm entries := by
  induction entries with
  | nil => exact .refl _
  | cons first rest ih => exact (insert_perm rank first _).trans (ih.cons first)

theorem insert_pairwise {rank : α → Nat} {entries : List α} (entry : α)
    (ordered : entries.Pairwise fun first second => rank first ≤ rank second) :
    (insert rank entry entries).Pairwise fun first second => rank first ≤ rank second := by
  induction entries with
  | nil => simp [insert]
  | cons first rest ih =>
      obtain ⟨least, later⟩ := List.pairwise_cons.1 ordered
      simp only [insert]
      split
      · rename_i before
        have low : ∀ other ∈ rest, rank entry ≤ rank other :=
          fun other member => Nat.le_trans before (least other member)
        exact List.pairwise_cons.2 ⟨List.forall_mem_cons.2 ⟨before, low⟩, ordered⟩
      · rename_i behind
        refine List.pairwise_cons.2 ⟨fun other member => ?_, ih later⟩
        rcases List.mem_cons.1 ((insert_perm rank entry rest).mem_iff.1 member) with rfl | old
        · exact Nat.le_of_not_le behind
        · exact least other old

/-- The entries come out in the order of their ranks. -/
theorem sort_pairwise (rank : α → Nat) (entries : List α) :
    (sort rank entries).Pairwise fun first second => rank first ≤ rank second := by
  induction entries with
  | nil => exact .nil
  | cons first rest ih => exact insert_pairwise first ih

end PlanRunner.Ranked
