/-
  The covariate adjustment over the reals.

  The variance of the adjusted outcomes is a square of the coefficient, `variance_adjusted`, that is
  least at the fitted one, where it is `1 - varianceReduction` of what it was.
-/
import AX10M.Attribution.ConfidenceSequence
import AX10M.Attribution.Strata
import Mathlib.Tactic.LinearCombination

namespace AX10M

/-- The outcomes, adjusted. -/
def adjusted {K : Type} [Field K] (fit : CupedFit K) (outcomes covariates : List K) : List K :=
  (outcomes.zip covariates).map fun p => applyCuped p.1 p.2 fit

/-- How outcomes and covariates vary together. -/
noncomputable def covariance (ys xs : List ℝ) : ℝ :=
  ((ys.zip xs).map fun p => (p.1 - mean ys) * (p.2 - mean xs)).sum / ys.length

section

variable {text : ℝ → String} {ys xs : List ℝ} {theta vr : ℝ}

theorem sum_map_zip_fst (h : ys.length = xs.length) (f : ℝ → ℝ) :
    ((ys.zip xs).map fun p => f p.1).sum = (ys.map f).sum := by
  have hfst : (ys.zip xs).map (fun p => f p.1) = ((ys.zip xs).map Prod.fst).map f := by
    rw [List.map_map]
    rfl
  rw [hfst, List.map_fst_zip h.le]

theorem sum_map_zip_snd (h : ys.length = xs.length) (f : ℝ → ℝ) :
    ((ys.zip xs).map fun p => f p.2).sum = (xs.map f).sum := by
  have hsnd : (ys.zip xs).map (fun p => f p.2) = ((ys.zip xs).map Prod.snd).map f := by
    rw [List.map_map]
    rfl
  rw [hsnd, List.map_snd_zip h.ge]

/-- The deviations from the mean cancel. -/
theorem sum_sub_mean (xs : List ℝ) : (xs.map fun x => x - mean xs).sum = 0 := by
  rcases eq_or_ne xs [] with rfl | hne
  · rfl
  have hlength : (xs.length : ℝ) ≠ 0 := by simpa using hne
  have hsplit : ∀ (l : List ℝ) (m : ℝ), (l.map fun x => x - m).sum = l.sum - l.length * m := by
    intro l m
    induction l with
    | nil => simp
    | cons x l ih =>
      rw [List.map_cons, List.sum_cons, ih, List.sum_cons, List.length_cons]
      push_cast
      ring
  rw [hsplit, mean_eq, mul_div_cancel₀ _ hlength, sub_self]

/-- A sum of squares is a square of the coefficient. -/
theorem sum_square (ps : List (ℝ × ℝ)) (theta : ℝ) :
    (ps.map fun p => (p.1 - theta * p.2) ^ 2).sum =
      (ps.map fun p => p.1 ^ 2).sum - 2 * theta * (ps.map fun p => p.1 * p.2).sum +
        theta ^ 2 * (ps.map fun p => p.2 ^ 2).sum := by
  induction ps with
  | nil => simp
  | cons p ps ih =>
    simp only [List.map_cons, List.sum_cons, ih]
    ring

theorem variance_nonneg (xs : List ℝ) : 0 ≤ variance xs := by
  rw [variance_eq]
  refine div_nonneg (List.sum_nonneg fun y hy => ?_) (Nat.cast_nonneg _)
  obtain ⟨x, -, rfl⟩ := List.mem_map.1 hy
  exact sq_nonneg _

/-- Values without variance are the mean. -/
theorem eq_mean_of_variance_eq_zero (h : variance xs = 0) {x : ℝ} (hx : x ∈ xs) : x = mean xs := by
  have hlength : (xs.length : ℝ) ≠ 0 := by
    simpa using List.ne_nil_of_mem hx
  rw [variance_eq, div_eq_zero_iff, or_iff_left hlength] at h
  have hnonneg : ∀ y ∈ xs.map fun x => (x - mean xs) ^ 2, 0 ≤ y := by
    intro y hy
    obtain ⟨x, -, rfl⟩ := List.mem_map.1 hy
    exact sq_nonneg _
  have hzero := List.all_zero_of_le_zero_le_of_sum_eq_zero hnonneg h (List.mem_map_of_mem hx)
  exact sub_eq_zero.1 (pow_eq_zero_iff two_ne_zero |>.1 hzero)

theorem length_adjusted (h : ys.length = xs.length) (fit : CupedFit ℝ) :
    (adjusted fit ys xs).length = ys.length := by
  rw [adjusted, List.length_map, List.length_zip, ← h, min_self]

/-- Any coefficient keeps the mean. -/
theorem mean_adjusted (h : ys.length = xs.length) :
    mean (adjusted ⟨theta, mean xs, vr⟩ ys xs) = mean ys := by
  have hsum : (adjusted ⟨theta, mean xs, vr⟩ ys xs).sum = ys.sum := by
    have hsplit : ∀ ps : List (ℝ × ℝ),
        (ps.map fun p => applyCuped p.1 p.2 ⟨theta, mean xs, vr⟩).sum =
          (ps.map fun p => id p.1).sum - theta * (ps.map fun p => p.2 - mean xs).sum := by
      intro ps
      induction ps with
      | nil => simp
      | cons p ps ih =>
        rw [List.map_cons, List.sum_cons, ih, List.map_cons, List.sum_cons, List.map_cons,
          List.sum_cons, applyCuped, id]
        ring
    rw [adjusted, hsplit, sum_map_zip_fst h, sum_map_zip_snd h (fun x => x - mean xs),
      sum_sub_mean, mul_zero, sub_zero, List.map_id]
  rw [mean_eq (adjusted _ ys xs), hsum, length_adjusted h, ← mean_eq]

/-- The variance under a coefficient. -/
theorem variance_adjusted (h : ys.length = xs.length) :
    variance (adjusted ⟨theta, mean xs, vr⟩ ys xs) =
      variance ys - 2 * theta * covariance ys xs + theta ^ 2 * variance xs := by
  have hdev : ((adjusted ⟨theta, mean xs, vr⟩ ys xs).map fun z => (z - mean ys) ^ 2) =
      ((ys.zip xs).map fun p => (p.1 - mean ys, p.2 - mean xs)).map
        fun d => (d.1 - theta * d.2) ^ 2 := by
    rw [adjusted, List.map_map, List.map_map]
    refine List.map_congr_left fun p _ => ?_
    simp only [Function.comp_apply, applyCuped]
    ring
  rw [variance_eq, mean_adjusted h, length_adjusted h, hdev, sum_square, variance_eq, variance_eq,
    covariance, List.map_map, List.map_map, List.map_map, ← h]
  simp only [Function.comp_def]
  rw [sum_map_zip_fst h fun y => (y - mean ys) ^ 2, sum_map_zip_snd h fun x => (x - mean xs) ^ 2]
  ring

/-- What is fitted. -/
theorem fitCuped_eq (h : ys.length = xs.length) : fitCuped (realOps text) ys xs =
    if ys.length < 2 ∨ variance xs = 0 ∨ variance ys = 0 then ⟨0, mean xs, 0⟩
    else ⟨covariance ys xs / variance xs, mean xs,
      covariance ys xs ^ 2 / (variance xs * variance ys)⟩ := by
  have hle : ∀ zs : List ℝ, variance zs ≤ 0 ↔ variance zs = 0 :=
    fun zs => ⟨fun hz => hz.antisymm (variance_nonneg zs), fun hz => hz.le⟩
  rw [fitCuped]
  simp only [foldl_add_zero fun d : ℝ × ℝ => d.1 * d.2, foldl_add_zero fun d : ℝ × ℝ => d.2 * d.2,
    foldl_add_zero fun d : ℝ × ℝ => d.1 * d.1, List.map_map, Function.comp_def]
  have hcov : ((ys.zip xs).map fun p => (p.1 - mean ys) * (p.2 - mean xs)).sum / (ys.length : ℝ) =
      covariance ys xs := rfl
  have hvarX : ((ys.zip xs).map fun p => (p.2 - mean xs) * (p.2 - mean xs)).sum / (ys.length : ℝ) =
      variance xs := by
    rw [sum_map_zip_snd h fun x => (x - mean xs) * (x - mean xs), variance_eq, h]
    simp only [sq]
  have hvarY : ((ys.zip xs).map fun p => (p.1 - mean ys) * (p.1 - mean ys)).sum / (ys.length : ℝ) =
      variance ys := by
    rw [sum_map_zip_fst h fun y => (y - mean ys) * (y - mean ys), variance_eq]
    simp only [sq]
  simp only [hcov, hvarX, hvarY, hle, ← h]
  by_cases hn : ys.length < 2
  · rw [if_pos (Or.inl hn), if_pos (Or.inl hn)]
  rw [if_neg (by simpa using hn)]
  by_cases hv : variance xs = 0 ∨ variance ys = 0
  · rw [if_pos hv, if_pos (Or.inr hv)]
  rw [if_neg hv, if_neg (by simpa [hn] using hv)]
  have hsqrt : (realOps text).sqrt (variance xs * variance ys) *
      (realOps text).sqrt (variance xs * variance ys) = variance xs * variance ys :=
    Real.mul_self_sqrt (mul_nonneg (variance_nonneg xs) (variance_nonneg ys))
  rw [div_mul_div_comm, hsqrt, ← sq]

theorem adjusted_zero (h : ys.length = xs.length) :
    adjusted ⟨0, mean xs, vr⟩ ys xs = ys := by
  have hzero : ∀ p : ℝ × ℝ, applyCuped p.1 p.2 ⟨0, mean xs, vr⟩ = p.1 := by
    intro p
    rw [applyCuped, zero_mul, sub_zero]
  simp only [adjusted, hzero]
  exact List.map_fst_zip h.le

/-- One outcome has no variance. -/
theorem variance_of_length_lt_two (h : xs.length < 2) : variance xs = 0 := by
  match xs, h with
  | [], _ => rfl
  | [x], _ => simp [variance, mean]

end

/-- For every pair of lists: the fitted adjustment keeps the mean, leaves `1 - varianceReduction` of
    the variance, which no other coefficient makes less of, and changes nothing if the covariate is
    constant. -/
theorem cuped_shrinks (text : ℝ → String) {outcomes covariates : List ℝ}
    (h : outcomes.length = covariates.length) :
    mean (adjusted (fitCuped (realOps text) outcomes covariates) outcomes covariates) =
      mean outcomes ∧
    variance (adjusted (fitCuped (realOps text) outcomes covariates) outcomes covariates) =
      (1 - (fitCuped (realOps text) outcomes covariates).varianceReduction) * variance outcomes ∧
    0 ≤ (fitCuped (realOps text) outcomes covariates).varianceReduction ∧
    (fitCuped (realOps text) outcomes covariates).varianceReduction ≤ 1 ∧
    (∀ theta,
      variance (adjusted (fitCuped (realOps text) outcomes covariates) outcomes covariates) ≤
        variance (adjusted { fitCuped (realOps text) outcomes covariates with theta }
          outcomes covariates)) ∧
    ((∀ x ∈ covariates, ∀ x' ∈ covariates, x = x') →
      adjusted (fitCuped (realOps text) outcomes covariates) outcomes covariates = outcomes) := by
  rw [fitCuped_eq h]
  split_ifs with hdeg
  · rw [adjusted_zero h]
    refine ⟨rfl, by rw [sub_zero, one_mul], le_rfl, zero_le_one, ?_, fun _ => rfl⟩
    intro theta
    rw [variance_adjusted h]
    rcases hdeg with hn | hx | hy
    · have hline : variance (adjusted ⟨theta, mean covariates, 0⟩ outcomes covariates) = _ :=
        variance_adjusted h
      rw [← hline, variance_of_length_lt_two hn]
      exact variance_nonneg _
    · -- a constant covariate is off its mean nowhere
      have hcov : covariance outcomes covariates = 0 := by
        rw [covariance, List.sum_eq_zero, zero_div]
        intro d hd
        obtain ⟨p, hp, rfl⟩ := List.mem_map.1 hd
        rw [← eq_mean_of_variance_eq_zero hx (List.of_mem_zip hp).2, sub_self, mul_zero]
      rw [hcov, hx, mul_zero, mul_zero, sub_zero, add_zero]
    · rw [hy]
      have := variance_nonneg (adjusted ⟨theta, mean covariates, 0⟩ outcomes covariates)
      rwa [variance_adjusted h, hy] at this
  · push Not at hdeg
    obtain ⟨-, hx, hy⟩ := hdeg
    have hxpos := (variance_nonneg covariates).lt_of_ne' hx
    have hypos := (variance_nonneg outcomes).lt_of_ne' hy
    set c := covariance outcomes covariates
    have hfit : ∀ vr, variance (adjusted ⟨c / variance covariates, mean covariates, vr⟩ outcomes
        covariates) = variance outcomes - c ^ 2 / variance covariates := by
      intro vr
      rw [variance_adjusted h]
      field_simp
      ring
    refine ⟨mean_adjusted h, ?_, by positivity, ?_, ?_, ?_⟩
    · rw [hfit]
      field_simp
    · -- the variance that is left is not negative
      have hleft := variance_nonneg
        (adjusted ⟨c / variance covariates, mean covariates, 0⟩ outcomes covariates)
      rw [hfit, sub_nonneg, div_le_iff₀ hxpos] at hleft
      rw [div_le_one (mul_pos hxpos hypos)]
      linarith
    · intro theta
      rw [hfit, variance_adjusted h]
      have hsquare : variance outcomes - 2 * theta * c + theta ^ 2 * variance covariates -
          (variance outcomes - c ^ 2 / variance covariates) =
          variance covariates * (theta - c / variance covariates) ^ 2 := by
        field_simp
        ring
      have hpos : 0 ≤ variance covariates * (theta - c / variance covariates) ^ 2 := by positivity
      linarith
    · intro hconst
      refine absurd ?_ hx
      rw [variance_eq, List.sum_eq_zero, zero_div]
      intro d hd
      obtain ⟨x, hxmem, rfl⟩ := List.mem_map.1 hd
      have hmean : mean covariates = x := by
        have hall : covariates = List.replicate covariates.length x :=
          List.eq_replicate_iff.2 ⟨rfl, fun b hb => hconst b hb x hxmem⟩
        have hlength : (covariates.length : ℝ) ≠ 0 := by
          simpa using List.ne_nil_of_mem hxmem
        have hsum : covariates.sum = covariates.length * x := by
          rw [hall, List.sum_replicate, List.length_replicate, nsmul_eq_mul]
        rw [mean_eq, hsum, mul_div_cancel_left₀ _ hlength]
      rw [hmean, sub_self, sq, mul_zero]

/-- Two outcomes that are their covariates, adjusted. -/
theorem cuped_shrinks_two : mean (adjusted (fitCuped (realOps fun _ => "") [0, 100] [0, 100])
    [0, 100] [0, 100]) = mean [0, 100] :=
  (cuped_shrinks (fun _ => "") rfl).1

end AX10M
