import Mathlib.Tactic
import Mathlib.Data.Int.Log

/-!
# Rounding to double precision

The value of a floating-point operation is the exact rational result rounded once to the nearest
double, ties to even.  `nearest` is that rounding, for results below the overflow threshold, and
`roundHalfEven` the rounding to an integer that it is built on.

* **`nearest_le_two_mul`**, **`nearest_nonneg`** — coarse bounds, enough to keep a converted
  quantity inside a range that is at least twice as wide.
* **`abs_nearest_sub_le`** — the error of a rounding, from a bound on the magnitude.
* **`nearest_mono`** — rounding keeps the order of nonnegative numbers.
-/

namespace Binary64

/-- The nearest integer, ties to even. -/
def roundHalfEven (q : ℚ) : ℤ :=
  if q - ⌊q⌋ < 1 / 2 then ⌊q⌋
  else if 1 / 2 < q - ⌊q⌋ then ⌊q⌋ + 1
  else if ⌊q⌋ % 2 = 0 then ⌊q⌋
  else ⌊q⌋ + 1

/-- The exponent of the last place of `q`: 53 significant bits, and none below 2⁻¹⁰⁷⁴. -/
def lastPlace (q : ℚ) : ℤ := max (Int.log 2 |q| - 52) (-1074)

/-- The double nearest to `q`. -/
def nearest (q : ℚ) : ℚ := roundHalfEven (q / 2 ^ lastPlace q) * 2 ^ lastPlace q

lemma roundHalfEven_nonneg {q : ℚ} (h : 0 ≤ q) : 0 ≤ roundHalfEven q := by
  have hfloor : 0 ≤ ⌊q⌋ := Int.floor_nonneg.mpr h
  unfold roundHalfEven
  split_ifs <;> omega

/-- Rounding up happens from one half on, so it at most doubles. -/
lemma roundHalfEven_le_two_mul {q : ℚ} (h : 0 ≤ q) : (roundHalfEven q : ℚ) ≤ 2 * q := by
  have hfloor : (⌊q⌋ : ℚ) ≤ q := Int.floor_le q
  have hnonneg : (0 : ℚ) ≤ ⌊q⌋ := by exact_mod_cast Int.floor_nonneg.mpr h
  unfold roundHalfEven
  split_ifs with h₁ h₂ h₃
  · linarith
  · push_cast
    linarith
  · linarith
  · push_cast
    linarith

lemma nearest_nonneg {q : ℚ} (h : 0 ≤ q) : 0 ≤ nearest q := by
  have hulp : (0 : ℚ) < 2 ^ lastPlace q := by positivity
  have hround : (0 : ℚ) ≤ roundHalfEven (q / 2 ^ lastPlace q) := by
    exact_mod_cast roundHalfEven_nonneg (div_nonneg h hulp.le)
  exact mul_nonneg hround hulp.le

theorem nearest_le_two_mul {q : ℚ} (h : 0 ≤ q) : nearest q ≤ 2 * q := by
  have hulp : (0 : ℚ) < 2 ^ lastPlace q := by positivity
  have hround := roundHalfEven_le_two_mul (div_nonneg h hulp.le)
  calc nearest q ≤ 2 * (q / 2 ^ lastPlace q) * 2 ^ lastPlace q :=
        mul_le_mul_of_nonneg_right hround hulp.le
    _ = 2 * q := by field_simp

/-! ## Error -/

/-- Rounding to an integer moves a number by one half at most. -/
lemma abs_roundHalfEven_sub_le (q : ℚ) : |(roundHalfEven q : ℚ) - q| ≤ 1 / 2 := by
  have hlo := Int.floor_le q
  have hhi := Int.lt_floor_add_one q
  unfold roundHalfEven
  split_ifs with h₁ h₂ h₃ <;> push_cast <;> rw [abs_le] <;> constructor <;> linarith

/-- Half of the last place. -/
lemma abs_nearest_sub_le_half (q : ℚ) : |nearest q - q| ≤ 2 ^ lastPlace q / 2 := by
  have hulp : (0 : ℚ) < 2 ^ lastPlace q := by positivity
  have hround := mul_le_mul_of_nonneg_right (abs_roundHalfEven_sub_le (q / 2 ^ lastPlace q)) hulp.le
  have hscaled : |(roundHalfEven (q / 2 ^ lastPlace q) : ℚ) - q / 2 ^ lastPlace q|
      * 2 ^ lastPlace q = |nearest q - q| := by
    rw [← abs_of_pos hulp, ← abs_mul, abs_of_pos hulp, sub_mul, div_mul_cancel₀ _ hulp.ne']
    rfl
  linarith

lemma lastPlace_le {q : ℚ} {k : ℤ} (hne : q ≠ 0) (hq : |q| < 2 ^ k) (hk : -1021 ≤ k) :
    lastPlace q ≤ k - 53 := by
  have hlog := (Int.lt_zpow_iff_log_lt (b := 2) (by norm_num) (abs_pos.mpr hne)).mp
    (by exact_mod_cast hq)
  exact max_le (by omega) (by omega)

lemma nearest_zero : nearest 0 = 0 := by simp [nearest, roundHalfEven]

/-- **The error of a rounding**, for a number below a power of two. -/
theorem abs_nearest_sub_le {q : ℚ} {k : ℤ} (hq : |q| < 2 ^ k) (hk : -1021 ≤ k) :
    |nearest q - q| ≤ 2 ^ (k - 54) := by
  by_cases hne : q = 0
  · rw [hne, nearest_zero, sub_zero, abs_zero]
    positivity
  · have hplace : (2 : ℚ) ^ lastPlace q ≤ 2 ^ (k - 53) :=
      zpow_le_zpow_right₀ (by norm_num) (lastPlace_le hne hq hk)
    have hsplit : (2 : ℚ) ^ (k - 53) = 2 ^ (k - 54) * 2 := by
      rw [← zpow_add_one₀ (by norm_num)]
      congr 1
      ring
    have hhalf := abs_nearest_sub_le_half q
    linarith

/-! ## Order -/

lemma roundHalfEven_intCast (n : ℤ) : roundHalfEven n = n := by simp [roundHalfEven]

/-- Rounding to an integer keeps the order: numbers with one floor are on the same side of its half,
or the larger one is past it. -/
lemma roundHalfEven_mono {p q : ℚ} (h : p ≤ q) : roundHalfEven p ≤ roundHalfEven q := by
  rcases (Int.floor_le_floor h).eq_or_lt with heq | hlt
  · unfold roundHalfEven
    rw [heq]
    split_ifs <;> first | omega | linarith
  · have hp : roundHalfEven p ≤ ⌊p⌋ + 1 := by
      unfold roundHalfEven
      split_ifs <;> omega
    have hq : ⌊q⌋ ≤ roundHalfEven q := by
      unfold roundHalfEven
      split_ifs <;> omega
    omega

/-- A power of two that is not below the last place of `q` is a double of its own scale. -/
lemma zpow_eq_mul_lastPlace {q : ℚ} {k : ℤ} (h : lastPlace q ≤ k) :
    ∃ n : ℤ, (2 : ℚ) ^ k = n * 2 ^ lastPlace q := by
  obtain ⟨m, hm⟩ := Int.eq_ofNat_of_zero_le (sub_nonneg.mpr h)
  refine ⟨2 ^ m, ?_⟩
  push_cast
  rw [← zpow_natCast, ← zpow_add₀ (by norm_num), ← hm]
  congr 1
  ring

/-- A double bounds the rounding of what it bounds, from above. -/
lemma nearest_le {q : ℚ} {n : ℤ} (h : q ≤ n * 2 ^ lastPlace q) :
    nearest q ≤ n * 2 ^ lastPlace q := by
  have hulp : (0 : ℚ) < 2 ^ lastPlace q := by positivity
  have hround := roundHalfEven_mono ((div_le_iff₀ hulp).mpr h)
  rw [roundHalfEven_intCast] at hround
  exact mul_le_mul_of_nonneg_right (by exact_mod_cast hround) hulp.le

/-- And from below. -/
lemma le_nearest {q : ℚ} {n : ℤ} (h : n * 2 ^ lastPlace q ≤ q) :
    n * 2 ^ lastPlace q ≤ nearest q := by
  have hulp : (0 : ℚ) < 2 ^ lastPlace q := by positivity
  have hround := roundHalfEven_mono ((le_div_iff₀ hulp).mpr h)
  rw [roundHalfEven_intCast] at hround
  exact mul_le_mul_of_nonneg_right (by exact_mod_cast hround) hulp.le

/-- Integers of 53 bits are doubles. -/
lemma nearest_intCast {n : ℤ} (hn : |n| < 2 ^ 53) : nearest n = n := by
  by_cases hne : n = 0
  · rw [hne, Int.cast_zero, nearest_zero]
  · have hplace : lastPlace n ≤ 0 :=
      lastPlace_le (k := 53) (by exact_mod_cast hne) (by exact_mod_cast hn) (by norm_num)
    obtain ⟨m, hm⟩ := zpow_eq_mul_lastPlace hplace
    have heq : (n : ℚ) = (n * m : ℤ) * 2 ^ lastPlace (n : ℚ) := by
      push_cast
      rw [mul_assoc, ← hm, zpow_zero, mul_one]
    exact le_antisymm ((nearest_le heq.le).trans heq.ge) (heq.le.trans (le_nearest heq.ge))

/-- **Rounding keeps the order**: numbers of one scale are rounded to the same multiples, and
between numbers of different scales lies a power of two, which is a multiple of both. -/
theorem nearest_mono {p q : ℚ} (hp : 0 ≤ p) (h : p ≤ q) : nearest p ≤ nearest q := by
  have hq := hp.trans h
  by_cases hscale : lastPlace p = lastPlace q
  · have hulp : (0 : ℚ) < 2 ^ lastPlace q := by positivity
    have hround := roundHalfEven_mono (div_le_div_of_nonneg_right h hulp.le)
    rw [nearest, nearest, hscale]
    exact mul_le_mul_of_nonneg_right (by exact_mod_cast hround) hulp.le
  rcases hp.eq_or_lt with rfl | hpos
  · rw [nearest_zero]
    exact nearest_nonneg hq
  have hlog := Int.log_mono_right (b := 2) hpos h
  have hplaces : lastPlace p < lastPlace q ∧ lastPlace q ≤ Int.log 2 q := by
    rw [lastPlace, lastPlace, abs_of_nonneg hp, abs_of_nonneg hq] at hscale ⊢
    omega
  have hbelow : p < 2 ^ Int.log 2 q := by
    refine (Int.lt_zpow_iff_log_lt (b := 2) (by norm_num) hpos).mpr ?_
    rw [lastPlace, lastPlace, abs_of_nonneg hp, abs_of_nonneg hq] at hplaces
    omega
  have habove : (2 : ℚ) ^ Int.log 2 q ≤ q := Int.zpow_log_le_self (by norm_num) (hpos.trans_le h)
  obtain ⟨m, hm⟩ := zpow_eq_mul_lastPlace (hplaces.1.le.trans hplaces.2)
  obtain ⟨n, hn⟩ := zpow_eq_mul_lastPlace hplaces.2
  calc nearest p ≤ m * 2 ^ lastPlace p := nearest_le (hm ▸ hbelow.le)
    _ = n * 2 ^ lastPlace q := hm.symm.trans hn
    _ ≤ nearest q := le_nearest (hn ▸ habove)

end Binary64
