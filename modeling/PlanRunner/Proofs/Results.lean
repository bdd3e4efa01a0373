/-!
# Results that may be errors

Steps that may fail one after the other, taken apart.
-/

namespace PlanRunner

variable {ε α β : Type} {first : Except ε α} {next : α → Except ε β} {change : α → β} {result : β}

theorem bind_eq_ok_iff :
    first.bind next = .ok result ↔ ∃ value, first = .ok value ∧ next value = .ok result := by
  cases first with
  | error error => simp [Except.bind]
  | ok value => simp [Except.bind]

/-- Two steps succeed together only if each of them does. -/
theorem exists_of_bind_eq_ok (read : (first >>= next) = .ok result) :
    ∃ value, first = .ok value ∧ next value = .ok result :=
  bind_eq_ok_iff.1 read

theorem exists_of_map_eq_ok (read : first.map change = .ok result) :
    ∃ value, first = .ok value ∧ change value = result := by
  cases first with
  | error error => contradiction
  | ok value => exact ⟨value, rfl, Except.ok.inj read⟩

end PlanRunner
