import Mathlib.Algebra.Order.Field.Power
import Mathlib.Algebra.Order.Floor.Ring
import Mathlib.Data.Int.Log
import Mathlib.Data.Rat.Floor
import Mathlib.Tactic.Linarith
import Mathlib.Tactic.Positivity
import Mathlib.Tactic.Ring

/-!
# `FlowGraph.Proofs.Decimal.Rounding`: rounding to the binary64 format

A number of the format is a whole number of at most 53 bits times a power of two that is not below
`2 ^ (-1074)` (`IsNumber`). The format has no number from `2 ^ 1024` on: what rounds to one there is
an infinity. `RoundsTo` says that a number is rounded to the nearest one, and to the one with an
even significand where two are equally near. The statements:

* `RoundsTo.lt_iff`: of two numbers with none between them, the lower one an odd significand, the
  upper one takes everything from the middle on.
* `RoundsTo.nonneg_iff`: what rounds to no negative number is at least `- 2 ^ (-1075)`, the middle
  between the greatest negative number and zero.
* `RoundsTo.lt_limit_iff`: what rounds to a number below the limit is below `2 ^ 1024 - 2 ^ 970`,
  the middle between the greatest number of the format and the limit.
* `exists_roundsTo`: every rational number is rounded.
-/

set_option autoImplicit false

namespace FlowGraph.Binary64

/-- The number is one of the format, or of its continuation beyond the limit. -/
def IsNumber (x : ℚ) : Prop := ∃ m e : ℤ, |m| < 2 ^ 53 ∧ -1074 ≤ e ∧ x = m * 2 ^ e

/-- Significand and exponent are those that the format keeps: all bits of the significand are used,
unless the exponent is the least one. -/
structure IsKept (m e : ℤ) : Prop where
  lt : |m| < 2 ^ 53
  le : -1074 ≤ e
  full : 2 ^ 52 ≤ |m| ∨ e = -1074

/-- The number has an even significand. -/
def IsEven (x : ℚ) : Prop := ∃ m e : ℤ, IsKept m e ∧ Even m ∧ x = m * 2 ^ e

/-- `x` is the number nearest to `q`, and the even one if two are equally near. -/
structure RoundsTo (q x : ℚ) : Prop where
  isNumber : IsNumber x
  nearest : ∀ y, IsNumber y → |x - q| ≤ |y - q|
  even : ∀ y, IsNumber y → |y - q| = |x - q| → y ≠ x → IsEven x

/-! ### Significands -/

/-- A larger exponent is a larger significand. -/
theorem two_zpow_add (e : ℤ) (k : ℕ) : (2 : ℚ) ^ (e + k) = (2 ^ k : ℤ) * 2 ^ e := by
  rw [add_comm, zpow_add₀ two_ne_zero, zpow_natCast, Int.cast_pow]
  rfl

/-- Equal numbers with exponents that differ by `k` have significands that differ by `2 ^ k`. -/
theorem eq_mul_pow {m n e : ℤ} {k : ℕ} (h : (m : ℚ) * 2 ^ e = n * 2 ^ (e + k)) :
    m = n * 2 ^ k := by
  have hpos : (0 : ℚ) < 2 ^ e := by positivity
  rw [two_zpow_add, ← mul_assoc] at h
  exact_mod_cast mul_right_cancel₀ hpos.ne' h

/-- A significand whose bits are all used cannot be doubled. -/
theorem two_pow_le_abs_mul {n : ℤ} {k : ℕ} (hn : 2 ^ 52 ≤ |n|) (hk : 0 < k) :
    2 ^ 53 ≤ |n * 2 ^ k| := by
  obtain ⟨k, rfl⟩ := Nat.exists_eq_add_of_le' hk
  have hpow : (2 : ℤ) ≤ 2 ^ (k + 1) := le_self_pow₀ (by norm_num) (by omega)
  rw [abs_mul, abs_of_pos (by positivity : (0 : ℤ) < 2 ^ (k + 1))]
  calc (2 : ℤ) ^ 53 = 2 ^ 52 * 2 := by norm_num
    _ ≤ |n| * 2 ^ (k + 1) := mul_le_mul hn hpow (by norm_num) (abs_nonneg n)

/-- No exponent that is kept is below another of the same number. -/
theorem IsKept.exponent_le {m e n f : ℤ} (h : IsKept m e) (h' : IsKept n f)
    (heq : (m : ℚ) * 2 ^ e = n * 2 ^ f) : f ≤ e := by
  by_contra hlt
  obtain ⟨k, rfl⟩ := Int.le.dest (not_le.1 hlt).le
  have hle := h.le
  have hfull := h'.full.resolve_right (by omega)
  have hbig := two_pow_le_abs_mul hfull (k := k) (by omega)
  rw [← eq_mul_pow heq] at hbig
  exact absurd h.lt (not_lt.2 hbig)

/-- The significand that is kept of a number is its only one. -/
theorem IsKept.unique {m e n f : ℤ} (h : IsKept m e) (h' : IsKept n f)
    (heq : (m : ℚ) * 2 ^ e = n * 2 ^ f) : m = n := by
  obtain rfl : e = f := le_antisymm (h'.exponent_le h heq.symm) (h.exponent_le h' heq)
  have hpos : (0 : ℚ) < 2 ^ e := by positivity
  exact_mod_cast mul_right_cancel₀ hpos.ne' heq

/-- A number whose significand is odd has no other one that is even. -/
theorem not_isEven {m e : ℤ} (h : IsKept m e) (hodd : Odd m) : ¬ IsEven (m * 2 ^ e) := by
  rintro ⟨n, f, hkept, heven, heq⟩
  rw [h.unique hkept heq] at hodd
  exact Int.not_even_iff_odd.2 hodd heven

/-- Zero is a number of the format. -/
theorem isNumber_zero : IsNumber 0 := ⟨0, -1074, by norm_num, le_refl _, by simp⟩

/-- The format is symmetric. -/
theorem IsNumber.neg {x : ℚ} (h : IsNumber x) : IsNumber (-x) := by
  obtain ⟨m, e, hm, he, rfl⟩ := h
  exact ⟨-m, e, by rwa [abs_neg], he, by push_cast; ring⟩

/-- The sign does not matter to whether a significand is even. -/
theorem IsEven.neg {x : ℚ} (h : IsEven x) : IsEven (-x) := by
  obtain ⟨m, e, hkept, heven, rfl⟩ := h
  exact ⟨-m, e, ⟨by rw [abs_neg]; exact hkept.lt, hkept.le, by rw [abs_neg]; exact hkept.full⟩,
    heven.neg, by push_cast; ring⟩

/-! ### The middle between two numbers -/

/-- A number is rounded below `b` exactly if it is below the middle between `b` and the number `a`
before it. The middle goes to `b`, if `a` is odd. -/
theorem RoundsTo.lt_iff {q x a b : ℚ} (h : RoundsTo q x) (ha : IsNumber a) (hb : IsNumber b)
    (hgap : ∀ y, IsNumber y → y < b → y ≤ a) (hab : a < b) (hodd : ¬ IsEven a) :
    x < b ↔ q < (a + b) / 2 := by
  constructor
  · intro hx
    by_contra hq
    have hle := hgap x h.isNumber hx
    have hnear := h.nearest b hb
    rw [abs_of_nonpos (by linarith : x - q ≤ 0)] at hnear
    rcases abs_cases (b - q) with ⟨habs, -⟩ | ⟨habs, -⟩
    · -- The tie: both are as near, and `x` can only be `a`.
      have hxa : x = a := by linarith
      have htie : |b - q| = |x - q| := by
        rw [abs_of_nonpos (by linarith : x - q ≤ 0)]
        linarith
      have heven := h.even b hb htie hx.ne'
      rw [hxa] at heven
      exact hodd heven
    · linarith
  · intro hq
    by_contra hx
    have hnear := h.nearest a ha
    rw [abs_of_nonneg (by linarith : 0 ≤ x - q)] at hnear
    rcases abs_cases (a - q) with ⟨habs, -⟩ | ⟨habs, -⟩
    · linarith
    · linarith

/-! ### The least numbers -/

/-- Between zero and `- 2 ^ (-1074)` there is no number. -/
theorem IsNumber.le_of_neg {x : ℚ} (h : IsNumber x) (hx : x < 0) : x ≤ -2 ^ (-1074 : ℤ) := by
  obtain ⟨m, e, -, he, rfl⟩ := h
  have hpos : (0 : ℚ) < 2 ^ e := by positivity
  have hm : m ≤ -1 := by
    have hneg : (m : ℚ) < 0 := by
      by_contra hm
      exact absurd hx (not_lt.2 (mul_nonneg (not_lt.1 hm) hpos.le))
    have : m < 0 := by exact_mod_cast hneg
    omega
  have hcast : (m : ℚ) ≤ -1 := by exact_mod_cast hm
  calc (m : ℚ) * 2 ^ e ≤ -1 * 2 ^ e := mul_le_mul_of_nonneg_right hcast hpos.le
    _ = -2 ^ e := neg_one_mul _
    _ ≤ -2 ^ (-1074 : ℤ) := neg_le_neg (zpow_le_zpow_right₀ (by norm_num) he)

/-- A number is rounded to no negative one exactly if it is at least half the greatest of these. -/
theorem RoundsTo.nonneg_iff {q x : ℚ} (h : RoundsTo q x) : 0 ≤ x ↔ -2 ^ (-1075 : ℤ) ≤ q := by
  have htwice : (2 : ℚ) ^ (-1074 : ℤ) = 2 * 2 ^ (-1075 : ℤ) := zpow_one_add₀ two_ne_zero (-1075)
  have hleast : ((-1 : ℤ) : ℚ) * 2 ^ (-1074 : ℤ) = -2 ^ (-1074 : ℤ) := by
    rw [Int.cast_neg, Int.cast_one, neg_one_mul]
  have hnumber : IsNumber (-2 ^ (-1074 : ℤ)) := ⟨-1, -1074, by decide, le_refl _, hleast.symm⟩
  have hodd : ¬ IsEven (-2 ^ (-1074 : ℤ)) := by
    rw [← hleast]
    exact not_isEven ⟨by decide, le_refl _, Or.inr rfl⟩ (by decide)
  have hmiddle : (-2 ^ (-1074 : ℤ) + 0 : ℚ) / 2 = -2 ^ (-1075 : ℤ) := by
    rw [htwice]
    ring
  have hlt := h.lt_iff hnumber isNumber_zero (fun y hy => hy.le_of_neg)
    (neg_neg_of_pos (by positivity)) hodd
  rw [hmiddle] at hlt
  rw [← not_lt, hlt, not_lt]

/-! ### The greatest numbers -/

/-- Between `2 ^ 1024 - 2 ^ 971` and the limit there is no number. -/
theorem IsNumber.le_of_lt_limit {x : ℚ} (h : IsNumber x) (hx : x < 2 ^ 1024) :
    x ≤ 2 ^ 1024 - 2 ^ 971 := by
  obtain ⟨m, e, hm, -, rfl⟩ := h
  have hlimit : (2 : ℚ) ^ 1024 = 2 ^ 53 * 2 ^ 971 := pow_add 2 53 971
  have hpos : (0 : ℚ) < 2 ^ 971 := by positivity
  -- With a larger exponent the number is a multiple of `2 ^ 971`, with a smaller one at most as
  -- large as the multiple of the same significand.
  have hbelow (n : ℤ) (hn : n < 2 ^ 53) : (n : ℚ) * 2 ^ 971 ≤ 2 ^ 1024 - 2 ^ 971 := by
    have hle : (n : ℚ) ≤ 2 ^ 53 - 1 := by exact_mod_cast (by omega : n ≤ 2 ^ 53 - 1)
    calc (n : ℚ) * 2 ^ 971 ≤ (2 ^ 53 - 1) * 2 ^ 971 := mul_le_mul_of_nonneg_right hle hpos.le
      _ = 2 ^ 1024 - 2 ^ 971 := by rw [sub_one_mul, hlimit]
  rcases le_total 971 e with he | he
  · obtain ⟨k, rfl⟩ := Int.le.dest he
    have heq : (m : ℚ) * 2 ^ (971 + k : ℤ) = (m * 2 ^ k : ℤ) * 2 ^ 971 := by
      rw [two_zpow_add, Int.cast_mul, mul_assoc]
      rfl
    rw [heq, hlimit] at hx
    rw [heq]
    exact hbelow _ (by exact_mod_cast lt_of_mul_lt_mul_right hx hpos.le)
  · have hmono : (2 : ℚ) ^ e ≤ 2 ^ 971 := zpow_le_zpow_right₀ (by norm_num) he
    have hcast : (m : ℚ) ≤ |m| := by exact_mod_cast le_abs_self m
    calc (m : ℚ) * 2 ^ e ≤ (|m| : ℤ) * 2 ^ e := mul_le_mul_of_nonneg_right hcast (by positivity)
      _ ≤ (|m| : ℤ) * 2 ^ 971 := mul_le_mul_of_nonneg_left hmono (by positivity)
      _ ≤ 2 ^ 1024 - 2 ^ 971 := hbelow _ hm

/-- A number is rounded to one below the limit exactly if it is nearer to the greatest of these. -/
theorem RoundsTo.lt_limit_iff {q x : ℚ} (h : RoundsTo q x) :
    x < 2 ^ 1024 ↔ q < 2 ^ 1024 - 2 ^ 970 := by
  have htwice : (2 : ℚ) ^ 971 = 2 ^ 970 * 2 := pow_succ 2 970
  have hpos : (0 : ℚ) < 2 ^ 971 := by positivity
  -- The number before the limit has all 53 bits set, so it is odd.
  have hgreatest : ((2 ^ 53 - 1 : ℤ) : ℚ) * 2 ^ (971 : ℤ) = 2 ^ 1024 - 2 ^ 971 := by
    rw [Int.cast_sub, Int.cast_one, sub_one_mul, Int.cast_pow]
    exact congrArg (· - _) (pow_add 2 53 971).symm
  have hnumber : IsNumber (2 ^ 1024 - 2 ^ 971) :=
    ⟨2 ^ 53 - 1, 971, by decide, by decide, hgreatest.symm⟩
  have hlimit : IsNumber (2 ^ 1024) :=
    ⟨2 ^ 52, 972, by decide, by decide, by rw [Int.cast_pow]; exact pow_add 2 52 972⟩
  have hodd : ¬ IsEven (2 ^ 1024 - 2 ^ 971) := by
    rw [← hgreatest]
    exact not_isEven ⟨by decide, by decide, Or.inl (by decide)⟩ (by decide)
  have hmiddle (l u : ℚ) : (l - u * 2 + l) / 2 = l - u := by ring
  rw [h.lt_iff hnumber hlimit (fun y hy => hy.le_of_lt_limit) (sub_lt_self _ hpos) hodd, htwice,
    hmiddle]

/-! ### Every number is rounded -/

/-- Rounding is symmetric. -/
theorem RoundsTo.neg {q x : ℚ} (h : RoundsTo q x) : RoundsTo (-q) (-x) := by
  have hdist (y : ℚ) : |y - -q| = |-y - q| := by
    rw [← abs_neg]
    ring_nf
  constructor
  · exact h.isNumber.neg
  · intro y hy
    rw [hdist, hdist, neg_neg]
    exact h.nearest _ hy.neg
  · intro y hy htie hne
    rw [hdist, hdist, neg_neg] at htie
    exact (h.even _ hy.neg htie (fun heq => hne (by rw [← heq, neg_neg]))).neg

/-- There is a whole number nearest to any, and it is even if two are equally near. -/
theorem exists_nearest_int (r : ℚ) :
    ∃ n : ℤ, (∀ m : ℤ, |n - r| ≤ |m - r|) ∧ ∀ m : ℤ, |m - r| = |n - r| → m ≠ n → Even n := by
  have hround (m : ℤ) : |round r - r| ≤ |m - r| := by
    rw [abs_sub_comm _ r, abs_sub_comm _ r]
    exact round_le r m
  by_cases htie : ∃ m : ℤ, |m - r| = |round r - r| ∧ m ≠ round r
  · obtain ⟨m, hm, hne⟩ := htie
    rcases Int.even_or_odd (round r) with heven | hodd
    · exact ⟨round r, hround, fun _ _ _ => heven⟩
    · -- The other one is next to it, and so it is even.
      have hhalf := abs_sub_round r
      have hnext : |m - round r| ≤ 1 := by
        have hcast : |(m - round r : ℚ)| ≤ 1 := by
          calc |(m - round r : ℚ)| ≤ |m - r| + |r - round r| := abs_sub_le _ r _
            _ = |r - round r| + |r - round r| := by rw [hm, abs_sub_comm _ r]
            _ ≤ 1 := by linarith
        exact_mod_cast hcast
      have heven : Even m := by
        rw [abs_le] at hnext
        rw [Int.odd_iff] at hodd
        rw [Int.even_iff]
        omega
      exact ⟨m, fun k => hm ▸ hround k, fun _ _ _ => heven⟩
  · refine ⟨round r, hround, fun m hm hne => absurd ⟨m, hm, hne⟩ htie⟩

/-- The exponent with which a positive number is rounded. The number has at most 53 bits before it,
and no fewer, unless the exponent is the least one. -/
theorem exists_exponent {q : ℚ} (hq : 0 < q) :
    ∃ e : ℤ, -1074 ≤ e ∧ q < 2 ^ (e + 53) ∧ (e ≠ -1074 → 2 ^ (e + 52) ≤ q) := by
  have hlog := Int.zpow_log_le_self (b := 2) (by norm_num) hq
  have hlt := Int.lt_zpow_succ_log_self (b := 2) (by norm_num) q
  refine ⟨max (-1074) (Int.log 2 q - 52), le_max_left _ _, ?_, fun hne => ?_⟩
  · exact hlt.trans_le (zpow_le_zpow_right₀ (by norm_num) (by omega))
  · rw [max_eq_right (by omega), sub_add_cancel]
    exact hlog

/-- Any number is a multiple of `2 ^ e`, or it is farther from `q` than one of these. -/
theorem IsNumber.eq_mul_or_lt {q y : ℚ} {e : ℤ} (hy : IsNumber y)
    (hlow : e ≠ -1074 → 2 ^ (e + 52) ≤ q) :
    (∃ k : ℤ, y = k * 2 ^ e) ∨ |(2 : ℚ) ^ (e + 52) - q| < |y - q| := by
  obtain ⟨m, f, hm, hf, rfl⟩ := hy
  -- With a larger exponent it is a multiple; with a smaller one it has too few bits to reach `q`.
  rcases le_or_gt e f with hge | hlt
  · obtain ⟨j, rfl⟩ := Int.le.dest hge
    exact Or.inl ⟨m * 2 ^ j, by rw [two_zpow_add, Int.cast_mul, mul_assoc]⟩
  · right
    have hq := hlow (by omega)
    have hcast : (m : ℚ) < 2 ^ (53 : ℤ) := by exact_mod_cast (le_abs_self m).trans_lt hm
    have hsmall : (m : ℚ) * 2 ^ f < 2 ^ (e + 52) :=
      calc (m : ℚ) * 2 ^ f < 2 ^ (53 : ℤ) * 2 ^ f := mul_lt_mul_of_pos_right hcast (by positivity)
        _ = 2 ^ (53 + f) := (zpow_add₀ two_ne_zero 53 f).symm
        _ ≤ 2 ^ (e + 52) := zpow_le_zpow_right₀ (by norm_num) (by omega)
    rw [abs_of_nonpos (by linarith), abs_of_neg (by linarith)]
    linarith

/-- A whole number that is nearer than another lies on the same side of it. -/
theorem le_of_nearer {r : ℚ} {n k : ℤ} (h : |n - r| ≤ |k - r|) (hk : k ≤ r) : k ≤ n := by
  by_contra hlt
  have hcast : (n : ℚ) < k := by exact_mod_cast not_le.1 hlt
  rw [abs_of_nonpos (by linarith), abs_of_nonpos (by linarith)] at h
  linarith

/-- A whole number that is as near to `r` as `k` is not above `k`, if `k` is not below `r`. -/
theorem ge_of_nearer {r : ℚ} {n k : ℤ} (h : |n - r| ≤ |k - r|) (hk : r ≤ k) : n ≤ k := by
  by_contra hlt
  have hcast : (k : ℚ) < n := by exact_mod_cast not_le.1 hlt
  rw [abs_of_nonneg (by linarith), abs_of_nonneg (by linarith)] at h
  linarith

/-- A significand of 54 bits, which only a power of two has, is kept with the next exponent. -/
theorem exists_isKept {n e : ℤ} (he : -1074 ≤ e) (hnonneg : 0 ≤ n) (hle : n ≤ 2 ^ 53)
    (hfull : e ≠ -1074 → 2 ^ 52 ≤ n) :
    ∃ m f, IsKept m f ∧ (n : ℚ) * 2 ^ e = m * 2 ^ f ∧ (Even n → Even m) := by
  rcases hle.lt_or_eq with hlt | rfl
  · refine ⟨n, e, ⟨by rwa [abs_of_nonneg hnonneg], he, ?_⟩, rfl, id⟩
    rw [abs_of_nonneg hnonneg]
    exact or_iff_not_imp_right.2 hfull
  · refine ⟨2 ^ 52, e + 1, ⟨by decide, by omega, Or.inl (by decide)⟩, ?_, fun _ => by decide⟩
    rw [zpow_add_one₀ two_ne_zero]
    push_cast
    ring

/-- Every positive number is rounded. -/
theorem exists_roundsTo_of_pos {q : ℚ} (hq : 0 < q) : ∃ x, RoundsTo q x := by
  obtain ⟨e, he, hhigh, hlow⟩ := exists_exponent hq
  obtain ⟨n, hnear, heven⟩ := exists_nearest_int (q / 2 ^ e)
  have hpos : (0 : ℚ) < 2 ^ e := by positivity
  -- The whole number has the bits that `q` has before the exponent.
  have hnonneg : 0 ≤ n := le_of_nearer (hnear 0) (by rw [Int.cast_zero]; positivity)
  have hle : n ≤ 2 ^ 53 := ge_of_nearer (hnear _) (by
    rw [div_le_iff₀ hpos, ← two_zpow_add e 53]
    exact hhigh.le)
  have hfull (hne : e ≠ -1074) : 2 ^ 52 ≤ n := le_of_nearer (hnear _) (by
    rw [le_div_iff₀ hpos, ← two_zpow_add e 52]
    exact hlow hne)
  obtain ⟨m, f, hkept, heq, hparity⟩ := exists_isKept he hnonneg hle hfull
  have hdist (k : ℤ) : |(k : ℚ) * 2 ^ e - q| = |k - q / 2 ^ e| * 2 ^ e := by
    rw [← abs_of_pos hpos, ← abs_mul, abs_of_pos hpos, sub_mul, div_mul_cancel₀ _ hpos.ne']
  have hmultiple (k : ℤ) : |(n : ℚ) * 2 ^ e - q| ≤ |k * 2 ^ e - q| := by
    rw [hdist, hdist]
    exact mul_le_mul_of_nonneg_right (hnear k) hpos.le
  have hcases (y : ℚ) (hy : IsNumber y) :
      (∃ k : ℤ, y = k * 2 ^ e) ∨ |n * 2 ^ e - q| < |y - q| := by
    refine (hy.eq_mul_or_lt hlow).imp_right (lt_of_le_of_lt ?_)
    exact (hmultiple (2 ^ 52)).trans_eq (by rw [← two_zpow_add e 52]; rfl)
  refine ⟨n * 2 ^ e, ⟨m, f, hkept.lt, hkept.le, heq⟩, fun y hy => ?_, fun y hy htie hne => ?_⟩
  · rcases hcases y hy with ⟨k, rfl⟩ | hlt
    · exact hmultiple k
    · exact hlt.le
  · rcases hcases y hy with ⟨k, rfl⟩ | hlt
    · rw [hdist, hdist] at htie
      have hn := heven k (mul_right_cancel₀ hpos.ne' htie) (fun hkn => hne (by rw [hkn]))
      exact ⟨m, f, hkept, hparity hn, heq⟩
    · exact absurd htie hlt.ne'

/-- Every number is rounded. -/
theorem exists_roundsTo (q : ℚ) : ∃ x, RoundsTo q x := by
  rcases lt_trichotomy q 0 with hq | rfl | hq
  · obtain ⟨x, hx⟩ := exists_roundsTo_of_pos (neg_pos.2 hq)
    exact ⟨-x, by simpa using hx.neg⟩
  · refine ⟨0, isNumber_zero, fun y _ => ?_, fun y _ htie hne => ?_⟩
    · rw [sub_self, abs_zero]
      exact abs_nonneg _
    · rw [sub_zero, sub_zero, abs_zero, abs_eq_zero] at htie
      exact absurd htie hne
  · exact exists_roundsTo_of_pos hq

end FlowGraph.Binary64
