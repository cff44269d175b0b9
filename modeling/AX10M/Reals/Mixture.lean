/-
  The boundary of a normal mixture, `v (1 + v) (log ((1 + v) / v) + c)` at a ratio `v` of variances.

  `boundary_strictMono`: it grows with the ratio, although the logarithm falls; as
  `v log ((1 + v) / v)` is a secant of the logarithm, which is concave.
-/
import Mathlib.Analysis.Convex.SpecificFunctions.Basic
import Mathlib.Analysis.SpecialFunctions.Log.Basic
import Mathlib.Tactic.FieldSimp
import Mathlib.Tactic.Positivity
import Mathlib.Tactic.Linarith

namespace Reals

/-- The boundary at a ratio. -/
noncomputable def boundary (c v : ℝ) : ℝ := v * (1 + v) * (Real.log ((1 + v) / v) + c)

variable {v w c : ℝ}

theorem one_lt_ratio (hv : 0 < v) : 1 < (1 + v) / v := by
  rw [lt_div_iff₀ hv]
  linarith

theorem log_ratio_pos (hv : 0 < v) : 0 < Real.log ((1 + v) / v) := Real.log_pos (one_lt_ratio hv)

/-- The part that grows although the logarithm falls. -/
theorem mul_log_ratio_mono (hv : 0 < v) (hvw : v ≤ w) :
    v * Real.log ((1 + v) / v) ≤ w * Real.log ((1 + w) / w) := by
  rcases hvw.eq_or_lt with rfl | hlt
  · exact le_rfl
  have hw : 0 < w := hv.trans hlt
  -- the secants of the logarithm from 1 to 1 + 1 / w and to 1 + 1 / v
  have hsecant := strictConcaveOn_log_Ioi.secant_strict_mono (a := 1) (x := 1 + 1 / w)
    (y := 1 + 1 / v) (Set.mem_Ioi.2 one_pos) (Set.mem_Ioi.2 (by positivity))
    (Set.mem_Ioi.2 (by positivity))
    (by simp [hw.ne']) (by simp [hv.ne']) (by
      have := one_div_lt_one_div_of_lt hv hlt
      linarith)
  have hratio : ∀ u : ℝ, 0 < u → 1 + 1 / u = (1 + u) / u := by
    intro u hu
    field_simp
    ring
  rw [Real.log_one, sub_zero, sub_zero, add_sub_cancel_left, add_sub_cancel_left, hratio v hv,
    hratio w hw, div_div_eq_mul_div, div_div_eq_mul_div, div_one, div_one] at hsecant
  rw [mul_comm v, mul_comm w]
  exact hsecant.le

theorem boundary_pos (hc : 0 ≤ c) (hv : 0 < v) : 0 < boundary c v := by
  have hlog := log_ratio_pos hv
  unfold boundary
  positivity

/-- The boundary grows with the ratio. -/
theorem boundary_strictMono (hc : 0 ≤ c) (hv : 0 < v) (hvw : v < w) :
    boundary c v < boundary c w := by
  have hw : 0 < w := hv.trans hvw
  have hlog := log_ratio_pos hv
  have hfalls : (1 + v) * (v * Real.log ((1 + v) / v)) < (1 + w) * (w * Real.log ((1 + w) / w)) :=
    mul_lt_mul (by linarith) (mul_log_ratio_mono hv hvw.le) (by positivity) (by positivity)
  have hrest : v * (1 + v) * c ≤ w * (1 + w) * c := by
    refine mul_le_mul_of_nonneg_right ?_ hc
    exact mul_le_mul hvw.le (by linarith) (by positivity) hw.le
  calc boundary c v = (1 + v) * (v * Real.log ((1 + v) / v)) + v * (1 + v) * c := by
        unfold boundary
        ring
    _ < (1 + w) * (w * Real.log ((1 + w) / w)) + w * (1 + w) * c := by linarith
    _ = boundary c w := by
        unfold boundary
        ring

/-- The boundary grows with the level. -/
theorem boundary_lt_of_lt {c' : ℝ} (hv : 0 < v) (h : c < c') : boundary c v < boundary c' v := by
  unfold boundary
  have : 0 < v * (1 + v) := by positivity
  exact mul_lt_mul_of_pos_left (by linarith) this

end Reals
