/-
  Backing off (`objective.ts` and `policy.ts` of `@ax10m/recovery-engine`).

  The probability of a fine is between `0` and `1` and grows with the attempts in the window
  (`fineProbability_mono`), so the fine to expect grows with them (`expectedFineCostMinor_mono`) and
  a retry that is not worth it stays so.  Without a compliance context the cost-aware policy is the
  heuristic one (`backing_off`).
-/
import AX10M.RecoveryEngine.Policies
import Mathlib.Tactic.Linarith

namespace AX10M

open Js

/-! ## The ramp -/

/-- The probability of a fine, by the part of the cap that is used. -/
def fineProbability (ratio start : ℚ) : ℚ :=
  if ratio ≥ 1 then 1 else if ratio ≤ start then 0 else (ratio - start) / (1 - start)

section

variable {ratio start : ℚ}

/-- On the ramp something is left of the cap. -/
theorem ramp_pos (hone : ¬ ratio ≥ 1) (hstart : ¬ ratio ≤ start) : 0 < 1 - start := by
  linarith [not_le.1 hone, not_le.1 hstart]

theorem fineProbability_nonneg (ratio start : ℚ) : 0 ≤ fineProbability ratio start := by
  unfold fineProbability
  split_ifs with hone hstart
  · exact zero_le_one
  · exact le_rfl
  · exact div_nonneg (by linarith [not_le.1 hstart]) (ramp_pos hone hstart).le

theorem fineProbability_le_one (ratio start : ℚ) : fineProbability ratio start ≤ 1 := by
  unfold fineProbability
  split_ifs with hone hstart
  · exact le_rfl
  · exact zero_le_one
  · refine (div_le_one (ramp_pos hone hstart)).2 ?_
    linarith [not_le.1 hone]

theorem fineProbability_mono (start : ℚ) {ratio ratio' : ℚ} (h : ratio ≤ ratio') :
    fineProbability ratio start ≤ fineProbability ratio' start := by
  by_cases hone' : ratio' ≥ 1
  · rw [fineProbability.eq_def ratio', if_pos hone']
    exact fineProbability_le_one ratio start
  have hone : ¬ ratio ≥ 1 := fun hone => hone' (hone.trans h)
  by_cases hstart : ratio ≤ start
  · rw [fineProbability, if_neg hone, if_pos hstart]
    exact fineProbability_nonneg ratio' start
  have hstart' : ¬ ratio' ≤ start := fun hstart' => hstart (h.trans hstart')
  rw [fineProbability, fineProbability, if_neg hone, if_neg hstart, if_neg hone', if_neg hstart']
  exact div_le_div_of_nonneg_right (sub_le_sub_right h start) (ramp_pos hone hstart).le

end

/-! ## The fine -/

section

variable {c : ComplianceContext} {cap : ℤ} (cost : CostModel)

theorem expectedFineCostMinor_none (hcap : c.networkCap = none) :
    expectedFineCostMinor (some c) cost = 0 := by
  simp [expectedFineCostMinor, hcap]

theorem expectedFineCostMinor_nonpos (hcap : c.networkCap = some cap) (h : cap ≤ 0) :
    expectedFineCostMinor (some c) cost = 0 := by
  simp [expectedFineCostMinor, hcap, h]

/-- Of a positive cap the fine goes by the part of it that is used. -/
theorem expectedFineCostMinor_pos (hcap : c.networkCap = some cap) (h : 0 < cap) :
    expectedFineCostMinor (some c) cost =
      Js.round (fineProbability ((max 0 c.attemptsInNetworkWindow : ℤ) / (cap : ℤ))
        (c.fineRampStart.getD (3 / 5)) * cost.fineExposureMinor) := by
  simp [expectedFineCostMinor, hcap, not_le.2 h, fineProbability]

/-- The probability with its division checked. -/
def checkedProbability (ratio start : ℚ) : Option ℚ :=
  if ratio ≥ 1 then some 1 else if ratio ≤ start then some 0
  else checkedDiv (ratio - start) (1 - start)

/-- The fine with its divisions checked. -/
def checkedFineCostMinor (cmp : Option ComplianceContext) (cost : CostModel) : Option ℤ :=
  match cmp.bind fun c => c.networkCap.map fun cap => (c, cap) with
  | none => some 0
  | some (c, cap) =>
    if cap ≤ 0 then some 0 else
      (checkedDiv ((max 0 c.attemptsInNetworkWindow : ℤ) : ℚ) (cap : ℤ)).bind fun ratio =>
        (checkedProbability ratio (c.fineRampStart.getD (3 / 5))).map fun pFine =>
          Js.round (pFine * cost.fineExposureMinor)

theorem checkedProbability_eq (ratio start : ℚ) :
    checkedProbability ratio start = some (fineProbability ratio start) := by
  unfold checkedProbability fineProbability
  split_ifs with hone hstart
  · rfl
  · rfl
  · rw [checkedDiv, if_neg (ramp_pos hone hstart).ne']

/-- No division of the fine is by zero. -/
theorem checkedFineCostMinor_eq (cmp : Option ComplianceContext) :
    checkedFineCostMinor cmp cost = some (expectedFineCostMinor cmp cost) := by
  cases cmp with
  | none => rfl
  | some c =>
    rcases c.networkCap.eq_none_or_eq_some with hcap | ⟨cap, hcap⟩
    · simp [checkedFineCostMinor, expectedFineCostMinor, hcap]
    · by_cases hpos : cap ≤ 0
      · simp [checkedFineCostMinor, expectedFineCostMinor, hcap, hpos]
      · have hne : (cap : ℚ) ≠ 0 := Int.cast_ne_zero.2 fun h => hpos h.le
        rw [expectedFineCostMinor_pos cost hcap (not_le.1 hpos)]
        simp only [checkedFineCostMinor, hcap, Option.bind_some, Option.map_some, if_neg hpos,
          checkedDiv, if_neg hne, checkedProbability_eq]

variable {cost}

theorem expectedFineCostMinor_nonneg (hexposure : 0 ≤ cost.fineExposureMinor) :
    0 ≤ expectedFineCostMinor (some c) cost := by
  rcases c.networkCap.eq_none_or_eq_some with hcap | ⟨cap, hcap⟩
  · rw [expectedFineCostMinor_none cost hcap]
  · by_cases hpos : cap ≤ 0
    · rw [expectedFineCostMinor_nonpos cost hcap hpos]
    · rw [expectedFineCostMinor_pos cost hcap (not_le.1 hpos)]
      exact round_nonneg (mul_nonneg (fineProbability_nonneg _ _) hexposure)

theorem expectedFineCostMinor_le (hexposure : 0 ≤ cost.fineExposureMinor) :
    expectedFineCostMinor (some c) cost ≤ Js.round cost.fineExposureMinor := by
  rcases c.networkCap.eq_none_or_eq_some with hcap | ⟨cap, hcap⟩
  · rw [expectedFineCostMinor_none cost hcap]
    exact round_nonneg hexposure
  · by_cases hpos : cap ≤ 0
    · rw [expectedFineCostMinor_nonpos cost hcap hpos]
      exact round_nonneg hexposure
    · rw [expectedFineCostMinor_pos cost hcap (not_le.1 hpos)]
      exact round_mono (mul_le_of_le_one_left hexposure (fineProbability_le_one _ _))

/-- At the cap and beyond it the whole exposure is to be expected. -/
theorem expectedFineCostMinor_full (hcap : c.networkCap = some cap) (hpos : 0 < cap)
    (h : cap ≤ c.attemptsInNetworkWindow) :
    expectedFineCostMinor (some c) cost = Js.round cost.fineExposureMinor := by
  have hratio : ((max 0 c.attemptsInNetworkWindow : ℤ) / (cap : ℤ) : ℚ) ≥ 1 := by
    refine (one_le_div (Int.cast_pos.2 hpos)).2 (Int.cast_le.2 ?_)
    exact h.trans (le_max_right 0 _)
  rw [expectedFineCostMinor_pos cost hcap hpos, fineProbability, if_pos hratio, one_mul]

theorem expectedFineCostMinor_mono (hexposure : 0 ≤ cost.fineExposureMinor) {n : ℤ}
    (h : c.attemptsInNetworkWindow ≤ n) : expectedFineCostMinor (some c) cost ≤
      expectedFineCostMinor (some { c with attemptsInNetworkWindow := n }) cost := by
  rcases c.networkCap.eq_none_or_eq_some with hcap | ⟨cap, hcap⟩
  · rw [expectedFineCostMinor_none cost hcap]
    exact expectedFineCostMinor_nonneg hexposure
  · by_cases hpos : cap ≤ 0
    · rw [expectedFineCostMinor_nonpos cost hcap hpos]
      exact expectedFineCostMinor_nonneg hexposure
    · have hcap' : { c with attemptsInNetworkWindow := n }.networkCap = some cap := hcap
      rw [expectedFineCostMinor_pos cost hcap (not_le.1 hpos),
        expectedFineCostMinor_pos cost hcap' (not_le.1 hpos)]
      refine round_mono (mul_le_mul_of_nonneg_right (fineProbability_mono _ ?_) hexposure)
      refine div_le_div_of_nonneg_right ?_ (Int.cast_nonneg (not_le.1 hpos).le)
      exact Int.cast_le.2 (max_le_max_left 0 h)

end

/-! ## The policies -/

/-- A dearer retry is worth it only if the cheaper one was. -/
theorem WorthRetrying.of_le {score floor net net' : ℚ} {code : DeclineCode}
    (h : WorthRetrying score floor net' code) (hle : net' ≤ net) :
    WorthRetrying score floor net code := ⟨h.live, h.likely, h.profitable.trans_le hle⟩

/-- With the default costs and thresholds, and no compliance context, the retries of both policies
    have one value. -/
theorem expectedValue_eq_netValue {score : ℚ} (h : 0 ≤ score) (amountMinor : ℚ) :
    (retryNetValue score amountMinor defaultCostModel none).netValueMinor =
      expectedValue score amountMinor defaultPolicyConfig.retentionMultiplier
        defaultPolicyConfig.attemptCostMinor := by
  have hcost : defaultPolicyConfig.attemptCostMinor = ((15 : ℤ) : ℚ) := rfl
  have hround : ∀ x : ℚ, Js.round (x - ((15 : ℤ) : ℚ)) = Js.round x - 15 := by
    intro x
    rw [Js.round, sub_add_eq_add_sub, Int.floor_sub_intCast, Js.round]
  rw [expectedValue, hcost, hround, retryNetValue, grossMinor, max_eq_right h]
  show _ - (attemptFeeMinor + ((0 : ℤ) : ℚ)) = _
  rw [Int.cast_zero, add_zero, Int.cast_sub]
  rfl

/-- **Backing off.**  The fine to expect is defined for every cap and count, it is not negative, is
    at most the exposure and all of it from the cap on, and grows with the attempts in the window;
    so a policy that does not retry does not after more attempts either.  With the default
    configuration and cost model and no compliance context the cost-aware policy acts as the
    heuristic one does, and values a retry as it does. -/
theorem backing_off :
    (∀ (c : ComplianceContext) (cost : CostModel), 0 ≤ cost.fineExposureMinor →
      checkedFineCostMinor (some c) cost = some (expectedFineCostMinor (some c) cost) ∧
      0 ≤ expectedFineCostMinor (some c) cost ∧
      expectedFineCostMinor (some c) cost ≤ Js.round cost.fineExposureMinor ∧
      (∀ cap, c.networkCap = some cap → cap ≤ 0 → expectedFineCostMinor (some c) cost = 0) ∧
      (∀ cap, c.networkCap = some cap → 0 < cap → cap ≤ c.attemptsInNetworkWindow →
        expectedFineCostMinor (some c) cost = Js.round cost.fineExposureMinor) ∧
      ∀ n, c.attemptsInNetworkWindow ≤ n → expectedFineCostMinor (some c) cost ≤
        expectedFineCostMinor (some { c with attemptsInNetworkWindow := n }) cost) ∧
    (∀ (p : CostAwarePolicy) (features : RecoveryFeatures) (ctx : PolicyContext)
        (c : ComplianceContext) (n : ℤ),
      0 ≤ (ctx.cost.getD defaultCostModel).fineExposureMinor → c.attemptsInNetworkWindow ≤ n →
      (p.decide features { ctx with compliance := some c }).map (·.action) ≠ some .retry →
      (p.decide features
        { ctx with compliance := some { c with attemptsInNetworkWindow := n } }).map (·.action) ≠
          some .retry) ∧
    ∀ (model : RecoveryFeatures → ℚ) (features : RecoveryFeatures) (ctx : PolicyContext),
      ctx.config.getD defaultPolicyConfig = defaultPolicyConfig →
      ctx.cost.getD defaultCostModel = defaultCostModel → ctx.compliance = none →
      0 ≤ model features → model features ≤ 1 →
        ((CostAwarePolicy.mk model).decide features ctx).map (·.action) =
          ((HeuristicPolicy.mk model).decide features ctx).map (·.action) ∧
        ∀ d d', (CostAwarePolicy.mk model).decide features ctx = some d →
          (HeuristicPolicy.mk model).decide features ctx = some d' → d.action = .retry →
            d.expectedValueMinor = d'.expectedValueMinor := by
  refine ⟨?_, ?_, ?_⟩
  · intro c cost hexposure
    exact ⟨checkedFineCostMinor_eq cost (some c), expectedFineCostMinor_nonneg hexposure,
      expectedFineCostMinor_le hexposure, fun cap => expectedFineCostMinor_nonpos cost,
      fun cap => expectedFineCostMinor_full, fun n => expectedFineCostMinor_mono hexposure⟩
  · intro p features ctx c n hexposure hn hnot hretry
    refine hnot ?_
    rw [CostAwarePolicy.decide_action, chosenAction_eq_retry_iff] at hretry ⊢
    obtain ⟨hworth, htiming⟩ := hretry
    refine ⟨hworth.of_le ?_, htiming⟩
    have hfine := expectedFineCostMinor_mono hexposure hn
    have hfine' : (expectedFineCostMinor (some c) (ctx.cost.getD defaultCostModel) : ℚ) ≤
        expectedFineCostMinor (some { c with attemptsInNetworkWindow := n })
          (ctx.cost.getD defaultCostModel) := Int.cast_le.2 hfine
    simp only [retryNetValue]
    linarith
  · intro model features ctx hconfig hcost hcompliance hscore _
    have haction : ((CostAwarePolicy.mk model).decide features ctx).map (·.action) =
        ((HeuristicPolicy.mk model).decide features ctx).map (·.action) := by
      rw [CostAwarePolicy.decide_action, HeuristicPolicy.decide_action, hconfig, hcost,
        hcompliance, expectedValue_eq_netValue hscore]
    refine ⟨haction, ?_⟩
    intro d d' hd hd' hretry
    have hretry' : d'.action = .retry := by
      rw [hd, hd', Option.map_some, Option.map_some, hretry] at haction
      exact (Option.some.inj haction).symm
    obtain ⟨-, -, -, -, hvalue⟩ := CostAwarePolicy.decide_retry hd hretry
    rw [hvalue, HeuristicPolicy.decide_retry hd' hretry', hconfig, hcost, hcompliance,
      expectedValue_eq_netValue hscore]

/-- A retry that is suppressed one attempt before the cap is suppressed at the cap. -/
theorem backing_off_near_cap :
    0 ≤ expectedFineCostMinor (some ⟨14, some 15, none⟩) defaultCostModel ∧
      ((CostAwarePolicy.mk fun _ => 1 / 10).decide { firstFailure with amountMinor := 6000 }
        { now := "2026-08-16T12:00:00.000Z", methods := [],
          compliance := some ⟨15, some 15, none⟩ }).map (·.action) ≠ some .retry ∧
      ((CostAwarePolicy.mk fun _ => 1 / 10).decide { firstFailure with amountMinor := 6000 }
          { now := "2026-08-16T12:00:00.000Z", methods := [] }).map (·.action) =
        ((HeuristicPolicy.mk fun _ => 1 / 10).decide { firstFailure with amountMinor := 6000 }
          { now := "2026-08-16T12:00:00.000Z", methods := [] }).map (·.action) :=
  ⟨(backing_off.1 _ _ (by decide)).2.1,
    backing_off.2.1 _ _ { now := "2026-08-16T12:00:00.000Z", methods := [] } ⟨14, some 15, none⟩ 15
      (by decide) (by decide) (by decide +kernel),
    (backing_off.2.2 (fun _ => 1 / 10) _ _ rfl rfl rfl (by norm_num) (by norm_num)).1⟩

end AX10M
