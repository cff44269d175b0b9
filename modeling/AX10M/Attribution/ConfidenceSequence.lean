/-
  The half-width of the confidence sequence over the reals.

  `msprt_halfWidths`: the two formulas agree where both are defined, as the square of either is the
  boundary of a normal mixture at the ratio of the squared standard error to `tau2`; it grows with
  the standard error and falls with `alpha`, so a larger standard error never raises the bound that
  is billed.
-/
import AX10M.Attribution.Sequential
import AX10M.Reals.Mixture
import Mathlib.Analysis.SpecialFunctions.Sqrt
import Mathlib.Algebra.Order.Floor.Semiring

namespace AX10M

open Reals

/-- The square root and the logarithm of the reals. -/
noncomputable def realOps (text : ℝ → String) : MathOps ℝ := ⟨Real.sqrt, Real.log, text⟩

/-- What `msprtHalfWidth` takes the square root of. -/
noncomputable def radicand (sigma2 n tau2 alpha : ℝ) : ℝ :=
  sigma2 * (n * tau2 + sigma2) / (n * n * tau2) *
    Real.log ((n * tau2 + sigma2) / (alpha * alpha * sigma2))

/-- What `msprtHalfWidthFromSe` takes the square root of. -/
noncomputable def radicandFromSe (se tau2 alpha : ℝ) : ℝ :=
  (1 + se * se / tau2) * Real.log ((tau2 + se * se) / (alpha * alpha * (se * se)))

section

variable {text : ℝ → String} {sigma2 n tau2 alpha se : ℝ}

theorem msprtHalfWidth_radicand (hsigma : 0 < sigma2) (hn : 0 < n) (htau : 0 < tau2) :
    msprtHalfWidth (realOps text) sigma2 n tau2 alpha = √(radicand sigma2 n tau2 alpha) := by
  rw [msprtHalfWidth, if_neg]
  · rfl
  · rintro (h | h | h)
    · exact hsigma.not_ge h
    · exact hn.not_ge h
    · exact htau.not_ge h

theorem msprtHalfWidthFromSe_radicand (hse : 0 < se) (htau : 0 < tau2) :
    msprtHalfWidthFromSe (realOps text) se tau2 alpha = se * √(radicandFromSe se tau2 alpha) := by
  rw [msprtHalfWidthFromSe, if_neg]
  · rfl
  · rintro (h | h)
    · exact hse.not_ge h
    · exact htau.not_ge h

theorem msprtHalfWidthFromSe_zero (h : se ≤ 0) :
    msprtHalfWidthFromSe (realOps text) se tau2 alpha = 0 := by
  rw [msprtHalfWidthFromSe, if_pos (Or.inl h)]

/-- The level of the boundary. -/
theorem level_pos (halpha : 0 < alpha) (hone : alpha < 1) : 0 < -2 * Real.log alpha := by
  have := Real.log_neg halpha hone
  linarith

/-- The logarithm of either formula, in terms of the ratio. -/
theorem log_ratio_level {v : ℝ} (hv : 0 < v) (halpha : 0 < alpha) :
    Real.log ((1 + v) / (alpha * alpha * v)) = Real.log ((1 + v) / v) + -2 * Real.log alpha := by
  have hsplit : (1 + v) / (alpha * alpha * v) = (1 + v) / v / (alpha * alpha) := by
    rw [div_div, mul_comm v]
  have hratio : (1 + v) / v ≠ 0 := (zero_lt_one.trans (one_lt_ratio hv)).ne'
  rw [hsplit, Real.log_div hratio (mul_pos halpha halpha).ne',
    Real.log_mul halpha.ne' halpha.ne']
  ring

theorem radicand_eq (hsigma : 0 < sigma2) (hn : 0 < n) (htau : 0 < tau2) (halpha : 0 < alpha) :
    radicand sigma2 n tau2 alpha = tau2 * boundary (-2 * Real.log alpha) (sigma2 / n / tau2) := by
  have hv : 0 < sigma2 / n / tau2 := by positivity
  have harg : (n * tau2 + sigma2) / (alpha * alpha * sigma2) =
      (1 + sigma2 / n / tau2) / (alpha * alpha * (sigma2 / n / tau2)) := by
    field_simp
  have hprefactor : sigma2 * (n * tau2 + sigma2) / (n * n * tau2) =
      tau2 * (sigma2 / n / tau2 * (1 + sigma2 / n / tau2)) := by
    field_simp
  rw [radicand, harg, log_ratio_level hv halpha, hprefactor, boundary, mul_assoc]

theorem radicandFromSe_eq (hse : 0 < se) (htau : 0 < tau2) (halpha : 0 < alpha) :
    se * se * radicandFromSe se tau2 alpha =
      tau2 * boundary (-2 * Real.log alpha) (se * se / tau2) := by
  have hv : 0 < se * se / tau2 := by positivity
  have harg : (tau2 + se * se) / (alpha * alpha * (se * se)) =
      (1 + se * se / tau2) / (alpha * alpha * (se * se / tau2)) := by
    field_simp
  have hse2 : se * se = tau2 * (se * se / tau2) := by
    field_simp
  rw [radicandFromSe, harg, log_ratio_level hv halpha, boundary]
  nth_rewrite 1 [hse2]
  ring

theorem radicand_pos (hsigma : 0 < sigma2) (hn : 0 < n) (htau : 0 < tau2) (halpha : 0 < alpha)
    (hone : alpha < 1) : 0 < radicand sigma2 n tau2 alpha := by
  rw [radicand_eq hsigma hn htau halpha]
  exact mul_pos htau (boundary_pos (level_pos halpha hone).le (by positivity))

theorem radicandFromSe_pos (hse : 0 < se) (htau : 0 < tau2) (halpha : 0 < alpha)
    (hone : alpha < 1) : 0 < radicandFromSe se tau2 alpha := by
  have hprod : 0 < se * se * radicandFromSe se tau2 alpha := by
    rw [radicandFromSe_eq hse htau halpha]
    exact mul_pos htau (boundary_pos (level_pos halpha hone).le (by positivity))
  exact (mul_pos_iff_of_pos_left (mul_pos hse hse)).1 hprod

/-- The half-width is the root of a boundary. -/
theorem msprtHalfWidthFromSe_eq (hse : 0 < se) (htau : 0 < tau2) (halpha : 0 < alpha) :
    msprtHalfWidthFromSe (realOps text) se tau2 alpha =
      √(tau2 * boundary (-2 * Real.log alpha) (se * se / tau2)) := by
  rw [msprtHalfWidthFromSe_radicand hse htau, ← radicandFromSe_eq hse htau halpha,
    Real.sqrt_mul (mul_self_nonneg se), Real.sqrt_mul_self hse.le]

theorem msprtHalfWidth_eq (hsigma : 0 < sigma2) (hn : 0 < n) (htau : 0 < tau2)
    (halpha : 0 < alpha) : msprtHalfWidth (realOps text) sigma2 n tau2 alpha =
      √(tau2 * boundary (-2 * Real.log alpha) (sigma2 / n / tau2)) := by
  rw [msprtHalfWidth_radicand hsigma hn htau, radicand_eq hsigma hn htau halpha]

/-- The two formulas are the same confidence sequence. -/
theorem msprtHalfWidth_eq_fromSe (hsigma : 0 < sigma2) (hn : 0 < n) (htau : 0 < tau2)
    (halpha : 0 < alpha) : msprtHalfWidth (realOps text) sigma2 n tau2 alpha =
      msprtHalfWidthFromSe (realOps text) (√(sigma2 / n)) tau2 alpha := by
  have hse : 0 < √(sigma2 / n) := Real.sqrt_pos.2 (by positivity)
  rw [msprtHalfWidth_eq hsigma hn htau halpha, msprtHalfWidthFromSe_eq hse htau halpha,
    Real.mul_self_sqrt (by positivity)]

/-! ## What it grows and falls with -/

theorem msprtHalfWidthFromSe_strictMonoOn (htau : 0 < tau2) (halpha : 0 < alpha)
    (hone : alpha < 1) :
    StrictMonoOn (fun se => msprtHalfWidthFromSe (realOps text) se tau2 alpha) (Set.Ici 0) := by
  intro se hse se' _ hlt
  have hse' : 0 < se' := (Set.mem_Ici.1 hse).trans_lt hlt
  have hc := (level_pos halpha hone).le
  show msprtHalfWidthFromSe _ se _ _ < msprtHalfWidthFromSe _ se' _ _
  rw [msprtHalfWidthFromSe_eq hse' htau halpha]
  rcases (Set.mem_Ici.1 hse).eq_or_lt with rfl | hpos
  · rw [msprtHalfWidthFromSe_zero le_rfl]
    exact Real.sqrt_pos.2 (mul_pos htau (boundary_pos hc (by positivity)))
  · rw [msprtHalfWidthFromSe_eq hpos htau halpha]
    have hratio : se * se / tau2 < se' * se' / tau2 :=
      div_lt_div_of_pos_right (mul_self_lt_mul_self hpos.le hlt) htau
    refine Real.sqrt_lt_sqrt (mul_pos htau (boundary_pos hc (by positivity))).le ?_
    exact mul_lt_mul_of_pos_left (boundary_strictMono hc (by positivity) hratio) htau

theorem msprtHalfWidthFromSe_mono (htau : 0 < tau2) (halpha : 0 < alpha) (hone : alpha < 1)
    {se' : ℝ} (h : se ≤ se') : msprtHalfWidthFromSe (realOps text) se tau2 alpha ≤
      msprtHalfWidthFromSe (realOps text) se' tau2 alpha := by
  have hmono : MonotoneOn (fun se => msprtHalfWidthFromSe (realOps text) se tau2 alpha)
      (Set.Ici 0) := (msprtHalfWidthFromSe_strictMonoOn htau halpha hone).monotoneOn
  rcases le_total 0 se with hse | hse
  · exact hmono (Set.mem_Ici.2 hse) (Set.mem_Ici.2 (hse.trans h)) h
  rw [msprtHalfWidthFromSe_zero hse]
  rcases le_total 0 se' with hse' | hse'
  · calc (0 : ℝ) = msprtHalfWidthFromSe (realOps text) 0 tau2 alpha :=
          (msprtHalfWidthFromSe_zero le_rfl).symm
      _ ≤ msprtHalfWidthFromSe (realOps text) se' tau2 alpha :=
          hmono (Set.mem_Ici.2 le_rfl) (Set.mem_Ici.2 hse') hse'
  · rw [msprtHalfWidthFromSe_zero hse']

theorem msprtHalfWidth_strictAntiOn (hsigma : 0 < sigma2) (htau : 0 < tau2) (halpha : 0 < alpha)
    (hone : alpha < 1) :
    StrictAntiOn (fun n => msprtHalfWidth (realOps text) sigma2 n tau2 alpha) (Set.Ioi 0) := by
  intro n hn n' hn' hlt
  show msprtHalfWidth _ _ n' _ _ < msprtHalfWidth _ _ n _ _
  rw [msprtHalfWidth_eq_fromSe hsigma hn htau halpha,
    msprtHalfWidth_eq_fromSe hsigma hn' htau halpha]
  refine msprtHalfWidthFromSe_strictMonoOn htau halpha hone (Real.sqrt_nonneg _)
    (Real.sqrt_nonneg _) ?_
  refine Real.sqrt_lt_sqrt (div_nonneg hsigma.le (Set.mem_Ioi.1 hn').le) ?_
  exact div_lt_div_of_pos_left hsigma hn hlt

theorem msprtHalfWidthFromSe_strictAntiOn (hse : 0 < se) (htau : 0 < tau2) :
    StrictAntiOn (msprtHalfWidthFromSe (realOps text) se tau2) (Set.Ioo 0 1) := by
  intro alpha halpha alpha' halpha' hlt
  rw [msprtHalfWidthFromSe_eq hse htau halpha.1, msprtHalfWidthFromSe_eq hse htau halpha'.1]
  have hlevel : -2 * Real.log alpha' < -2 * Real.log alpha := by
    have := Real.log_lt_log halpha.1 hlt
    linarith
  have hc := (level_pos halpha'.1 halpha'.2).le
  refine Real.sqrt_lt_sqrt (mul_pos htau (boundary_pos hc (by positivity))).le ?_
  exact mul_lt_mul_of_pos_left (boundary_lt_of_lt (by positivity) hlevel) htau

/-- A larger standard error never raises the bound that is billed. -/
theorem lowerPer_antitone {observations observations' : List (UpliftObservation ℝ)}
    {config : SequentialUpliftConfig ℝ} (htau : 0 < config.tau2) (halpha : 0 < config.alpha)
    (hone : config.alpha < 1)
    (hdelta : (measure (realOps text) observations' config).deltaPer =
      (measure (realOps text) observations config).deltaPer)
    (hse : (measure (realOps text) observations config).se ≤
      (measure (realOps text) observations' config).se) :
    (measure (realOps text) observations' config).lowerPer ≤
      (measure (realOps text) observations config).lowerPer := by
  show max 0 ((measure (realOps text) observations' config).deltaPer - _) ≤
    max 0 ((measure (realOps text) observations config).deltaPer - _)
  rw [hdelta]
  exact max_le_max le_rfl (sub_le_sub_left (msprtHalfWidthFromSe_mono htau halpha hone hse) _)

end

/-- The two half-widths, for every variance, number of observations and standard error. -/
theorem msprt_halfWidths (text : ℝ → String) {tau2 alpha : ℝ} (htau : 0 < tau2)
    (halpha : 0 < alpha) (hone : alpha < 1) :
    (∀ sigma2 n, 0 < sigma2 → 0 < n →
      msprtHalfWidth (realOps text) sigma2 n tau2 alpha =
        msprtHalfWidthFromSe (realOps text) (√(sigma2 / n)) tau2 alpha ∧
      msprtHalfWidth (realOps text) sigma2 n tau2 alpha = √(radicand sigma2 n tau2 alpha) ∧
      0 < radicand sigma2 n tau2 alpha) ∧
    (∀ se, 0 < se →
      msprtHalfWidthFromSe (realOps text) se tau2 alpha =
        se * √(radicandFromSe se tau2 alpha) ∧
      0 < radicandFromSe se tau2 alpha) ∧
    StrictMonoOn (fun se => msprtHalfWidthFromSe (realOps text) se tau2 alpha) (Set.Ici 0) ∧
    (∀ sigma2, 0 < sigma2 →
      StrictAntiOn (fun n => msprtHalfWidth (realOps text) sigma2 n tau2 alpha) (Set.Ioi 0) ∧
      ∀ n, 0 < n →
        StrictAntiOn (msprtHalfWidth (realOps text) sigma2 n tau2) (Set.Ioo 0 1)) ∧
    (∀ se, 0 < se → StrictAntiOn (msprtHalfWidthFromSe (realOps text) se tau2) (Set.Ioo 0 1)) ∧
    ∀ observations observations' config, config.tau2 = tau2 → config.alpha = alpha →
      (measure (realOps text) observations' config).deltaPer =
        (measure (realOps text) observations config).deltaPer →
      (measure (realOps text) observations config).se ≤
        (measure (realOps text) observations' config).se →
      (measure (realOps text) observations' config).lowerPer ≤
        (measure (realOps text) observations config).lowerPer := by
  refine ⟨?_, ?_, msprtHalfWidthFromSe_strictMonoOn htau halpha hone, ?_, ?_, ?_⟩
  · intro sigma2 n hsigma hn
    exact ⟨msprtHalfWidth_eq_fromSe hsigma hn htau halpha, msprtHalfWidth_radicand hsigma hn htau,
      radicand_pos hsigma hn htau halpha hone⟩
  · intro se hse
    exact ⟨msprtHalfWidthFromSe_radicand hse htau, radicandFromSe_pos hse htau halpha hone⟩
  · intro sigma2 hsigma
    refine ⟨msprtHalfWidth_strictAntiOn hsigma htau halpha hone, ?_⟩
    intro n hn a ha b hb hlt
    rw [msprtHalfWidth_eq_fromSe hsigma hn htau ha.1, msprtHalfWidth_eq_fromSe hsigma hn htau hb.1]
    exact msprtHalfWidthFromSe_strictAntiOn (Real.sqrt_pos.2 (by positivity)) htau ha hb hlt
  · intro se hse
    exact msprtHalfWidthFromSe_strictAntiOn hse htau
  · rintro observations observations' config rfl rfl hdelta hse
    exact lowerPer_antitone htau halpha hone hdelta hse

/-- The half-width of a standard error at the defaults. -/
theorem msprt_halfWidths_default :
    msprtHalfWidthFromSe (realOps (fun _ => "")) 100 4000000 (5 / 100) =
      100 * √(radicandFromSe 100 4000000 (5 / 100)) ∧
    0 < radicandFromSe 100 4000000 (5 / 100) :=
  (msprt_halfWidths (fun _ => "") (by norm_num) (by norm_num) (by norm_num)).2.1 100 (by norm_num)

end AX10M
