import Mathlib.Algebra.Order.Field.Power
import Mathlib.Data.Rat.Cast.Order
import Mathlib.Tactic.Linarith
import Mathlib.Tactic.Positivity
import FlowGraph.Proofs.Decimal.Numerals

/-!
# `FlowGraph.Proofs.Decimal.Bounds`: comparing decimals with the two ends of a format

`Decimal.isBelowOverflow` and `Decimal.isNegligible` look at the places of a decimal first, digits
and exponent taken together, and compute powers only if the places are those of the bound. Both are
instances of `settled_iff`, and both decide the comparison of the exact number. So a decimal is kept
exactly from `- 2 ^ (-1075)` on and below `2 ^ 1024 - 2 ^ 970` (`isNonnegativeDouble_iff`).
-/

set_option autoImplicit false

namespace FlowGraph.Decimal

variable {n : ℕ} {e : ℤ}

/-! ### Places -/

/-- A number is below the power of ten that has one digit more. -/
theorem lt_pow_digitCount (n : ℕ) : n < 10 ^ digitCount n := by
  induction n using digitCount.induct with
  | case1 n h =>
      rw [digitCount, if_pos h]
      exact h
  | case2 n h ih =>
      rw [digitCount, if_neg h, pow_succ]
      omega

/-- Ten times a number other than zero is not below this power of ten. -/
theorem pow_digitCount_le (hn : n ≠ 0) : 10 ^ digitCount n ≤ n * 10 := by
  induction n using digitCount.induct with
  | case1 n h =>
      rw [digitCount, if_pos h]
      omega
  | case2 n h ih =>
      rw [digitCount, if_neg h, pow_succ]
      have hrest := ih (by omega)
      omega

/-- A decimal is below the power of ten that its places tell. -/
theorem lt_zpow_places (n : ℕ) (e : ℤ) : (n : ℚ) * 10 ^ e < 10 ^ (digitCount n + e) := by
  have hcast : (n : ℚ) < 10 ^ digitCount n := by exact_mod_cast lt_pow_digitCount n
  rw [zpow_add₀ (by norm_num), zpow_natCast]
  exact mul_lt_mul_of_pos_right hcast (by positivity)

/-- A decimal other than zero is not below the power of ten before. -/
theorem zpow_places_le (hn : n ≠ 0) (e : ℤ) :
    (10 : ℚ) ^ (digitCount n + e - 1) ≤ n * 10 ^ e := by
  have hcast : (10 : ℚ) ^ digitCount n ≤ n * 10 := by exact_mod_cast pow_digitCount_le hn
  rw [zpow_sub_one₀ (by norm_num), zpow_add₀ (by norm_num), zpow_natCast,
    ← div_eq_mul_inv, div_le_iff₀ (by norm_num)]
  calc (10 : ℚ) ^ digitCount n * 10 ^ e ≤ n * 10 * 10 ^ e :=
        mul_le_mul_of_nonneg_right hcast (by positivity)
    _ = n * 10 ^ e * 10 := mul_right_comm ..

/-- A condition that holds of everything below `10 ^ p` and of nothing from `10 ^ (p + 1)` on is
settled by the places, unless there are `p + 1` of them. -/
theorem settled_iff {p : ℤ} {exact : Bool} (holds : ℚ → Prop)
    (hexact : exact = true ↔ holds (n * 10 ^ e)) (hlow : ∀ x < 10 ^ p, holds x)
    (hhigh : ∀ x, 10 ^ (p + 1) ≤ x → ¬ holds x) :
    (n == 0 || decide ((digitCount n : ℤ) + e ≤ p) ||
      (decide ((digitCount n : ℤ) + e ≤ p + 1) && exact)) = true ↔ holds (n * 10 ^ e) := by
  have hten : (1 : ℚ) ≤ 10 := by norm_num
  by_cases hn : n = 0
  · have hzero : holds 0 := hlow 0 (by positivity)
    simpa [hn] using hzero
  · have hlt := lt_zpow_places n e
    have hle := zpow_places_le hn e
    -- By the number of places: too few, as many as the bound has, or too many.
    rcases le_or_gt ((digitCount n : ℤ) + e) p with hfew | hmany
    · have hholds := hlow _ (hlt.trans_le (zpow_le_zpow_right₀ hten hfew))
      simp [hfew, hholds]
    · rcases le_or_gt ((digitCount n : ℤ) + e) (p + 1) with hsame | hmore
      · simp [hn, hmany.not_ge, hsame, hexact]
      · have hnot := hhigh _ ((zpow_le_zpow_right₀ hten (by omega)).trans hle)
        simp [hn, hmany.not_ge, hmore.not_ge, hnot]

/-! ### The two comparisons -/

/-- A power of ten as a quotient of whole numbers. -/
theorem zpow_eq_div (e : ℤ) : (10 : ℚ) ^ e = 10 ^ e.toNat / 10 ^ (-e).toNat := by
  rw [← zpow_natCast, ← zpow_natCast, ← zpow_sub₀ (by norm_num), Int.toNat_sub_toNat_neg]

/-- The bound for overflow as a rational number: the middle between the greatest number of the
format and its limit. -/
theorem cast_overflowBound : (overflowBound : ℚ) = 2 ^ 1024 - 2 ^ 970 := by
  have hadd : overflowBound + 2 ^ 970 = 2 ^ 1024 := by decide +kernel
  have hcast := congrArg (Nat.cast (R := ℚ)) hadd
  rw [Nat.cast_add, Nat.cast_pow, Nat.cast_pow, Nat.cast_ofNat] at hcast
  exact eq_sub_of_add_eq hcast

/-- A natural power as a rational one. -/
theorem cast_pow_eq (b k : ℕ) : ((b ^ k : ℕ) : ℚ) = (b : ℚ) ^ (k : ℤ) := by
  rw [Nat.cast_pow, zpow_natCast]

/-- The bound has 309 digits. -/
theorem overflowBound_bounds :
    (10 : ℚ) ^ (308 : ℤ) ≤ overflowBound ∧ (overflowBound : ℚ) ≤ 10 ^ (309 : ℤ) := by
  have hbounds : 10 ^ 308 ≤ overflowBound ∧ overflowBound ≤ 10 ^ 309 := by decide +kernel
  exact ⟨(cast_pow_eq 10 308).symm.trans_le (Nat.cast_le.2 hbounds.1),
    (Nat.cast_le.2 hbounds.2).trans_eq (cast_pow_eq 10 309)⟩

/-- The comparison with the upper bound is decided exactly. -/
theorem isBelowOverflow_iff :
    isBelowOverflow n e = true ↔ (n : ℚ) * 10 ^ e < 2 ^ 1024 - 2 ^ 970 := by
  obtain ⟨hlow, hhigh⟩ := overflowBound_bounds
  rw [← cast_overflowBound]
  refine settled_iff (· < (overflowBound : ℚ)) ?_ (fun x hx => hx.trans_le hlow)
    (fun x hx => not_lt.2 (hhigh.trans hx))
  rw [decide_eq_true_iff, zpow_eq_div, ← mul_div_assoc, div_lt_iff₀ (by positivity)]
  exact_mod_cast Iff.rfl

/-- Half the least positive number of the format has 323 zeros after its point. -/
theorem least_bounds : (10 : ℚ) ^ (-324 : ℤ) ≤ 2 ^ (-1075 : ℤ) ∧
    (2 : ℚ) ^ (-1075 : ℤ) < 10 ^ (-323 : ℤ) := by
  have hbounds : 2 ^ 1075 ≤ 10 ^ 324 ∧ 10 ^ 323 < 2 ^ 1075 := by decide +kernel
  rw [zpow_neg, zpow_neg, zpow_neg, inv_le_inv₀ (by positivity) (by positivity),
    inv_lt_inv₀ (by positivity) (by positivity)]
  exact ⟨(cast_pow_eq 2 1075).symm.trans_le
      ((Nat.cast_le.2 hbounds.1).trans_eq (cast_pow_eq 10 324)),
    (cast_pow_eq 10 323).symm.trans_lt
      ((Nat.cast_lt.2 hbounds.2).trans_eq (cast_pow_eq 2 1075))⟩

/-- A comparison of quotients, as it is computed: with natural numbers only. -/
theorem quotient_le_iff (n a b k : ℕ) :
    (n : ℚ) * 10 ^ a / 10 ^ b ≤ 2 ^ (-k : ℤ) ↔
      n * Nat.pow 10 a * Nat.pow 2 k ≤ Nat.pow 10 b := by
  rw [zpow_neg, zpow_natCast, ← one_div, div_le_div_iff₀ (by positivity) (by positivity), one_mul]
  exact_mod_cast Iff.rfl

/-- The comparison with the lower bound is decided exactly. -/
theorem isNegligible_iff : isNegligible n e = true ↔ (n : ℚ) * 10 ^ e ≤ 2 ^ (-1075 : ℤ) := by
  obtain ⟨hlow, hhigh⟩ := least_bounds
  -- The exponent gets a name, so that no step computes the power.
  obtain ⟨k, hk⟩ : ∃ k, k = 1075 := ⟨1075, rfl⟩
  have hcast : (-1075 : ℤ) = -k := by rw [hk, Nat.cast_ofNat]
  rw [hcast] at hlow hhigh ⊢
  rw [isNegligible, ← hk]
  refine settled_iff (· ≤ (2 : ℚ) ^ (-k : ℤ)) ?_ (fun x hx => hx.le.trans hlow)
    (fun x hx => not_le.2 (hhigh.trans_le hx))
  rw [decide_eq_true_iff, zpow_eq_div, ← mul_div_assoc, quotient_le_iff]

/-! ### Which decimals are kept -/

/-- A decimal is one that rounds to a finite number not below zero, exactly if its value lies
between the two middles, of which the lower one is included. -/
theorem isNonnegativeDouble_iff {d : Decimal} :
    d.isNonnegativeDouble = true ↔
      -2 ^ (-1075 : ℤ) ≤ d.value ∧ d.value < 2 ^ 1024 - 2 ^ 970 := by
  obtain ⟨negative, n, e⟩ := d
  have hnonneg : (0 : ℚ) ≤ n * 10 ^ e := by positivity
  have hleast : (0 : ℚ) ≤ 2 ^ (-1075 : ℤ) := by positivity
  -- Each sign has one bound to respect; the other lies beyond zero.
  cases negative with
  | true =>
      have hbound : (0 : ℚ) < 2 ^ 1024 - 2 ^ 970 := by
        rw [← cast_overflowBound]
        exact lt_of_lt_of_le (by positivity) overflowBound_bounds.1
      have hvalue : value ⟨true, n, e⟩ = -(n * 10 ^ e) := by simp [value]
      rw [hvalue, neg_le_neg_iff, isNonnegativeDouble, if_pos rfl, isNegligible_iff]
      exact (and_iff_left ((neg_nonpos.2 hnonneg).trans_lt hbound)).symm
  | false =>
      have hvalue : value ⟨false, n, e⟩ = n * 10 ^ e := by simp [value]
      rw [hvalue, isNonnegativeDouble, if_neg Bool.false_ne_true, isBelowOverflow_iff]
      exact (and_iff_right ((neg_nonpos.2 hleast).trans hnonneg)).symm

end FlowGraph.Decimal
