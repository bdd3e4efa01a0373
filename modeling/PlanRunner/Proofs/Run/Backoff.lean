import PlanRunner.Proofs.Run.Retries

/-!
# Delays before retries

The delay before a retry is computed in words of 64 bits: the number of doublings is capped, the
product stops at the greatest word, and the result is capped once more. Only the last cap shows. The
delay is what unbounded numbers give, and these are the delays of every turn.
-/

namespace PlanRunner

/-- The delay in milliseconds that doubles with every retry, up to the longest one. -/
def idealDelay (base retries : Nat) : Nat :=
  if base = 0 then 0 else min (base * 2 ^ retries) 30000

/-! ## Unbounded numbers -/

theorem idealDelay_eq (base retries : Nat) :
    idealDelay base retries = min (base * 2 ^ retries) 30000 := by
  by_cases zero : base = 0
  · rw [idealDelay, if_pos zero, zero, Nat.zero_mul, Nat.zero_min]
  · rw [idealDelay, if_neg zero]

theorem idealDelay_mono {base larger retries more : Nat} (baseLe : base ≤ larger)
    (retriesLe : retries ≤ more) : idealDelay base retries ≤ idealDelay larger more := by
  have product : base * 2 ^ retries ≤ larger * 2 ^ more :=
    Nat.mul_le_mul baseLe (Nat.pow_le_pow_right (by decide) retriesLe)
  rw [idealDelay_eq, idealDelay_eq]
  omega

/-- Twenty doublings lead beyond the longest delay, so that more of them change nothing. -/
theorem idealDelay_min (base retries : Nat) :
    idealDelay base (min retries 20) = idealDelay base retries := by
  rcases Nat.le_total retries 20 with few | many
  · rw [Nat.min_eq_left few]
  · rw [Nat.min_eq_right many]
    by_cases zero : base = 0
    · rw [idealDelay, idealDelay, if_pos zero, if_pos zero]
    · have reached : 30000 ≤ base * 2 ^ 20 := by omega
      have beyond : base * 2 ^ 20 ≤ base * 2 ^ retries :=
        Nat.mul_le_mul_left base (Nat.pow_le_pow_right (by decide) many)
      rw [idealDelay_eq, idealDelay_eq, Nat.min_eq_right reached,
        Nat.min_eq_right (Nat.le_trans reached beyond)]

/-! ## Words -/

namespace Settings

theorem toNat_min (first second : UInt64) :
    (min first second).toNat = min first.toNat second.toNat := by
  change (if first ≤ second then first else second).toNat = _
  by_cases ordered : first ≤ second
  · rw [if_pos ordered, Nat.min_eq_left (UInt64.le_iff_toNat_le.1 ordered)]
  · rw [if_neg ordered, Nat.min_eq_right]
    exact Nat.le_of_not_le fun swapped => ordered (UInt64.le_iff_toNat_le.2 swapped)

theorem toNat_saturatingMul (first second : UInt64) :
    (saturatingMul first second).toNat =
      min (first.toNat * second.toNat) 0xFFFFFFFFFFFFFFFF := by
  unfold saturatingMul
  split
  · rename_i fits
    rw [UInt64.toNat_mul, Nat.mod_eq_of_lt fits]
    omega
  · rename_i tooLarge
    rw [Nat.min_eq_right (by omega)]
    rfl

/-- How often the first delay is doubled at most. -/
theorem toNat_min_twenty (retries : UInt32) : (min retries 20).toNat = min retries.toNat 20 := by
  change (if retries ≤ 20 then retries else 20).toNat = _
  by_cases few : retries ≤ 20
  · rw [if_pos few]
    exact (Nat.min_eq_left (UInt32.le_iff_toNat_le.1 few)).symm
  · rw [if_neg few]
    refine (Nat.min_eq_right ?_).symm
    exact Nat.le_of_not_le fun low => few (UInt32.le_iff_toNat_le.2 low)

/-- The doublings fit into a word. -/
theorem toNat_doublings (retries : UInt32) :
    ((1 : UInt64) <<< (min retries 20).toUInt64).toNat = 2 ^ min retries.toNat 20 := by
  have few : min retries.toNat 20 < 64 := by omega
  have fits : 2 ^ min retries.toNat 20 < 2 ^ 64 := Nat.pow_lt_pow_right (by decide) few
  rw [UInt64.toNat_shiftLeft, UInt32.toNat_toUInt64, toNat_min_twenty, Nat.mod_eq_of_lt few,
    UInt64.toNat_one, Nat.one_shiftLeft, Nat.mod_eq_of_lt fits]

/-- The greatest word is longer than the longest delay, so that stopping there changes nothing. -/
theorem toNat_retryBackoff (settings : Settings) (retries : UInt32) :
    (settings.retryBackoff retries).toNat =
      idealDelay settings.retryBackoffMs.toNat retries.toNat := by
  unfold retryBackoff
  split
  · rename_i zero
    rw [zero]
    rfl
  · have cap : backoffCeiling.toNat = 30000 := rfl
    rw [← idealDelay_min, idealDelay_eq, toNat_min, toNat_saturatingMul, toNat_doublings, cap]
    omega

end Settings

/-! ## Turns -/

/-- The delays before the calls that a turn repeats, in order. -/
def Turn.delays (turn : Turn) : List UInt64 :=
  turn.calls.filterMap (·.retryDelay)

/-- The calls that are repeated are followed by delays, and the last one is not. -/
theorem Turn.delays_callsFrom (settings : Settings) (gateways : Gateways) (action : Action)
    (retries before now : Nat) :
    (callsFrom settings gateways action retries before now).1.filterMap (·.retryDelay) =
        (List.range (callsFrom settings gateways action retries before now).1.length).map
          (fun index => settings.retryBackoff (UInt32.ofNat (before + index))) ∧
      (callsFrom settings gateways action retries before now).2.retryDelay = none := by
  induction retries generalizing before now with
  | zero => exact ⟨rfl, rfl⟩
  | succ retries ih =>
      simp only [callsFrom]
      cases (callAt settings gateways action before now).answer with
      | success content => exact ⟨rfl, rfl⟩
      | failure message =>
          obtain ⟨delays, last⟩ := ih (before + 1)
            ((callAt settings gateways action before now).endsAt +
              (settings.retryBackoff (UInt32.ofNat before)).toNat)
          refine ⟨?_, last⟩
          simp only [List.filterMap_cons, List.length_cons, List.range_succ_eq_map, List.map_cons,
            List.map_map, delays, Nat.add_zero]
          simp only [Function.comp_def, Nat.succ_eq_add_one, Nat.add_assoc, Nat.add_comm 1]

/-- A turn waits as long before each retry as unbounded numbers say. -/
theorem Turn.delays_take (settings : Settings) (gateways : Gateways) (seen : List Step)
    (step : Step) :
    (take settings gateways seen step).delays.map UInt64.toNat =
      (List.range ((take settings gateways seen step).calls.length - 1)).map
        (idealDelay settings.retryBackoffMs.toNat) := by
  cases resolves : (gateways.resolve step seen).value with
  | error message =>
      simp only [delays, take, resolves]
      rfl
  | ok resolution =>
      by_cases complete : resolution.isComplete
      · have calls := repeated_callsFrom settings gateways (.ofStep step resolution.arguments)
          (retriesLeft settings step) 0 (gateways.resolve step seen).delay
        obtain ⟨waits, last⟩ := delays_callsFrom settings gateways
          (.ofStep step resolution.arguments) (retriesLeft settings step) 0
          (gateways.resolve step seen).delay
        simp only [delays, take, resolves, complete, if_true, List.filterMap_append, waits,
          List.filterMap_cons_none last, List.filterMap_nil, List.append_nil, List.map_map,
          List.length_append, List.length_singleton, Nat.add_sub_cancel]
        refine List.map_congr_left fun index before => ?_
        have fits : index < 2 ^ 32 := by
          have few := calls.few
          have budget := (step.retryBudget settings.maxRetries).toNat_lt
          rw [List.mem_range] at before
          rw [retriesLeft] at few before
          omega
        rw [Function.comp_apply, Settings.toNat_retryBackoff, Nat.zero_add,
          UInt32.toNat_ofNat_of_lt' fits]
      · simp only [delays, take, resolves, complete]
        rfl

/--
The delay before a retry is zero if the first one is, and else the first one doubled with every
retry before it, in unbounded numbers, up to half a minute. It gets no shorter with more retries or
with a longer first delay, and every turn waits so long before each of its retries.
-/
theorem backoff_is_ideal (settings : Settings) (retries : UInt32) :
    (settings.retryBackoff retries).toNat =
      (if settings.retryBackoffMs.toNat = 0 then 0
        else min (settings.retryBackoffMs.toNat * 2 ^ retries.toNat) 30000) ∧
    (∀ more, retries ≤ more → settings.retryBackoff retries ≤ settings.retryBackoff more) ∧
    (∀ slower : Settings, settings.retryBackoffMs ≤ slower.retryBackoffMs →
      settings.retryBackoff retries ≤ slower.retryBackoff retries) ∧
    ∀ gateways seen step,
      (Turn.take settings gateways seen step).delays.map UInt64.toNat =
        (List.range ((Turn.take settings gateways seen step).calls.length - 1)).map
          (idealDelay settings.retryBackoffMs.toNat) := by
  refine ⟨settings.toNat_retryBackoff retries, fun more later => ?more,
    fun slower longer => ?slower, Turn.delays_take settings⟩
  case more =>
    rw [UInt64.le_iff_toNat_le, settings.toNat_retryBackoff, settings.toNat_retryBackoff]
    exact idealDelay_mono (Nat.le_refl _) (UInt32.le_iff_toNat_le.1 later)
  case slower =>
    rw [UInt64.le_iff_toNat_le, settings.toNat_retryBackoff, slower.toNat_retryBackoff]
    exact idealDelay_mono (UInt64.le_iff_toNat_le.1 longer) (Nat.le_refl _)

/-- A first delay that leaves the words when it is doubled, and a shorter one after many retries. -/
theorem backoff_is_ideal_beyond_words :
    ((10 : UInt32) ≤ 4294967295 ∧ (3 : UInt64) ≤ 18446744073709551615) ∧
    (Settings.retryBackoff { retryBackoffMs := 3 } 4294967295).toNat = 30000 ∧
    Settings.retryBackoff { retryBackoffMs := 3 } 10 ≤
      Settings.retryBackoff { retryBackoffMs := 3 } 4294967295 ∧
    Settings.retryBackoff { retryBackoffMs := 3 } 10 ≤
      Settings.retryBackoff { retryBackoffMs := 18446744073709551615 } 10 := by
  have more : (10 : UInt32) ≤ 4294967295 := by decide
  have longer : (3 : UInt64) ≤ 18446744073709551615 := by decide
  obtain ⟨-, monotone, slower, -⟩ := backoff_is_ideal { retryBackoffMs := 3 } 10
  exact ⟨⟨more, longer⟩, by decide, monotone _ more, slower { retryBackoffMs := _ } longer⟩

end PlanRunner
