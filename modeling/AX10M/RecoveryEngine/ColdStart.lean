/-
  The decisions of the bandit beside those of the cost-aware policy (`contextual-bandit.ts` and
  `policy.ts` of `@ax10m/recovery-engine`).

  * `LinUcbBanditPolicy.decide_action`: the action, by the upper bounds of the two arms;
  * `retry_above_floor`: whatever was learned, a retry is one the cost-aware policy makes too;
  * `cold_start_iff`: when a bandit that has learned nothing acts as that policy, and
    `cold_start_default`: what is left of the condition with the default options.
-/
import AX10M.RecoveryEngine.Bandit
import AX10M.RecoveryEngine.Policies
import Mathlib.Analysis.SpecialFunctions.Log.Basic
import Mathlib.Analysis.Real.Sqrt

namespace AX10M

open Js Matrices Matrix

/-! ## The action -/

section

variable {K : Type} [Field K] [LinearOrder K] [FloorRing K]

/-- The prior of asking for another card, on the costs of the policy. -/
def commsPrior (opts : LinUcbOptions K) (score : ℚ) (features : RecoveryFeatures)
    (ctx : PolicyContext) : ℚ :=
  (commsNetValue (if deadCredential features.declineCode then score
    else score * opts.softCommsDamping) features.amountMinor
      (ctx.cost.getD opts.cost)).netValueMinor

/-- The prior of a retry. -/
def retryPrior (opts : LinUcbOptions K) (score : ℚ) (features : RecoveryFeatures)
    (ctx : PolicyContext) : ℚ :=
  (retryNetValue score features.amountMinor (ctx.cost.getD opts.cost) ctx.compliance).netValueMinor

/-- A retry is a candidate. -/
def RetryAllowed (opts : LinUcbOptions K) (score : ℚ) (features : RecoveryFeatures)
    (ctx : PolicyContext) : Prop :=
  WorthRetrying score (ctx.config.getD defaultPolicyConfig).minRecoverabilityToRetry
    (retryPrior opts score features ctx) features.declineCode

instance (opts : LinUcbOptions K) (score : ℚ) (features : RecoveryFeatures)
    (ctx : PolicyContext) : Decidable (RetryAllowed opts score features ctx) :=
  inferInstanceAs (Decidable (WorthRetrying _ _ _ _))

namespace LinUcbBanditPolicy

variable (math : JsMath K) (p : LinUcbBanditPolicy K) (features : RecoveryFeatures)
  (ctx : PolicyContext)

/-- The upper bounds of both arms. -/
def commsBound : K :=
  (p.scoreArm math .cardUpdateComms (featureVector math features)
    (commsPrior p.opts (p.model features) features ctx)).ucbMinor

def retryBound : K :=
  (p.scoreArm math .retry (featureVector math features)
    (retryPrior p.opts (p.model features) features ctx)).ucbMinor

/-- The action with the larger bound, if that is positive; `none` where the time of a retry
    throws. -/
theorem decide_action :
    (p.decide math features ctx).map (·.action) =
      if RetryAllowed p.opts (p.model features) features ctx ∧
          p.commsBound math features ctx ≤ p.retryBound math features ctx then
        if p.retryBound math features ctx ≤ 0 then some .suppress
        else (optimalRetryTime features ctx.now).map fun _ => .retry
      else if p.commsBound math features ctx ≤ 0 then some .suppress
      else some .cardUpdateComms := by
  unfold decide
  extract_lets cfg cost score x dead commsScore retryValue commsValue comms retry best mean ucb
  have hbest : best = if RetryAllowed p.opts (p.model features) features ctx ∧
      p.commsBound math features ctx ≤ p.retryBound math features ctx then (.retry, retry)
      else (.cardUpdateComms, comms) := by
    by_cases hallowed : RetryAllowed p.opts (p.model features) features ctx
    · have hcandidate : ¬ dead ∧ score ≥ cfg.minRecoverabilityToRetry ∧
          retryValue.netValueMinor > 0 := ⟨hallowed.live, hallowed.likely, hallowed.profitable⟩
      by_cases hle : p.commsBound math features ctx ≤ p.retryBound math features ctx
      · rw [if_pos ⟨hallowed, hle⟩]
        exact (if_pos hcandidate).trans (if_neg (not_lt.2 hle))
      · rw [if_neg fun h => hle h.2]
        exact (if_pos hcandidate).trans (if_pos (not_le.1 hle))
    · rw [if_neg fun h => hallowed h.1]
      exact if_neg fun h => hallowed ⟨h.1, h.2.1, h.2.2⟩
  by_cases hretry : RetryAllowed p.opts (p.model features) features ctx ∧
      p.commsBound math features ctx ≤ p.retryBound math features ctx
  · rw [if_pos hretry] at hbest ⊢
    by_cases hpos : p.retryBound math features ctx ≤ 0
    · rw [if_pos hpos, hbest]
      exact congrArg (Option.map _) (if_pos hpos)
    · rw [if_neg hpos, hbest]
      refine (congrArg (Option.map _) (if_neg hpos)).trans ?_
      rw [Option.map_map]
      rfl
  · rw [if_neg hretry] at hbest ⊢
    by_cases hpos : p.commsBound math features ctx ≤ 0
    · rw [if_pos hpos, hbest]
      exact congrArg (Option.map _) (if_pos hpos)
    · rw [if_neg hpos, hbest]
      exact congrArg (Option.map _) (if_neg hpos)

variable {math p features ctx}

/-- A retry was a candidate, and is made at its time with its method. -/
theorem decide_retry {d : BanditDecision} (h : p.decide math features ctx = some d)
    (hd : d.action = .retry) : RetryAllowed p.opts (p.model features) features ctx ∧
      ∃ timing, optimalRetryTime features ctx.now = some timing ∧
        d.retryAt = some timing.retryAt ∧
        d.paymentMethodRef = (selectMethod features ctx.methods).map AvailableMethod.ref := by
  constructor
  · have haction := p.decide_action math features ctx
    rw [h, Option.map_some, hd] at haction
    by_contra hnot
    rw [if_neg fun hretry => hnot hretry.1] at haction
    split_ifs at haction
    · cases haction
    · cases haction
  · unfold decide at h
    extract_lets at h
    split_ifs at h
    · obtain rfl := Option.some.inj h
      cases hd
    · split at h
      · obtain rfl := Option.some.inj h
        cases hd
      · obtain ⟨timing, htiming, rfl⟩ := Option.map_eq_some_iff.1 h
        exact ⟨timing, htiming, rfl, rfl⟩

end LinUcbBanditPolicy

/-- **Learning cannot lift the floor.**  Whatever was learned or restored, the bandit proposes a
    retry only if the credential is not dead, the score reaches the minimum and the net value of a
    retry is positive; the cost-aware policy with the same costs proposes a retry too, at the same
    time and of the same method. -/
theorem retry_above_floor (math : JsMath K) (p : LinUcbBanditPolicy K) (features : RecoveryFeatures)
    (ctx : PolicyContext) {d : BanditDecision} (h : p.decide math features ctx = some d)
    (hd : d.action = .retry) :
    ¬ deadCredential features.declineCode ∧
      (ctx.config.getD defaultPolicyConfig).minRecoverabilityToRetry ≤ p.model features ∧
      0 < (retryNetValue (p.model features) features.amountMinor (ctx.cost.getD p.opts.cost)
        ctx.compliance).netValueMinor ∧
      ∃ d', (CostAwarePolicy.mk p.model).decide features
          { ctx with cost := some (ctx.cost.getD p.opts.cost) } = some d' ∧
        d'.action = .retry ∧ d'.retryAt = d.retryAt ∧
          d'.paymentMethodRef = d.paymentMethodRef := by
  obtain ⟨hallowed, timing, htiming, hat, hmethod⟩ := LinUcbBanditPolicy.decide_retry h hd
  refine ⟨hallowed.live, hallowed.likely, hallowed.profitable, ?_⟩
  have haction := ((CostAwarePolicy.mk p.model).decide_action features
    { ctx with cost := some (ctx.cost.getD p.opts.cost) }).trans
      (chosenAction_retry ctx.now hallowed)
  rw [htiming, Option.map_some] at haction
  obtain ⟨d', hd', hretry⟩ := Option.map_eq_some_iff.1 haction
  obtain ⟨timing', htiming', hat', hmethod', -⟩ := CostAwarePolicy.decide_retry hd' hretry
  obtain rfl := Option.some.inj (htiming.symm.trans htiming')
  exact ⟨d', hd', hretry, hat'.trans hat.symm, hmethod'.trans hmethod.symm⟩

end

/-! ## Nothing learned -/

section

variable {K : Type} [Field K] [LinearOrder K]

/-- What exploration adds to the bounds of a policy that has learned nothing. -/
def coldBonus (math : JsMath K) (opts : LinUcbOptions K) (x : Fin featureDim → K) : K :=
  opts.alpha * math.sqrt (x ⬝ᵥ x / opts.lambda) * opts.rewardScaleMinor

variable [IsStrictOrderedRing K]

/-- The options under which a score is defined: no division is by zero. -/
structure LinUcbOptions.Positive (opts : LinUcbOptions K) : Prop where
  lambda : 0 < opts.lambda
  priorStrength : 0 < opts.priorStrength
  rewardScaleMinor : 0 < opts.rewardScaleMinor

/-- Without data the mean of an arm is its prior. -/
theorem scoreArm_new (math : JsMath K) (model : RecoveryFeatures → ℚ) {opts : LinUcbOptions K}
    (h : opts.Positive) (arm : BanditArm) (x : Fin featureDim → K) (priorMinor : ℚ) :
    ((LinUcbBanditPolicy.new model opts).scoreArm math arm x priorMinor).ucbMinor =
      priorMinor + coldBonus math opts x := by
  have hscale := h.rewardScaleMinor.ne'
  have hquadratic : x ⬝ᵥ (freshArm opts).aInv *ᵥ x = x ⬝ᵥ x / opts.lambda := by
    show x ⬝ᵥ ((1 / opts.lambda) • (1 : Matrix _ _ K)) *ᵥ x = _
    rw [smul_mulVec, one_mulVec, dotProduct_smul, smul_eq_mul, one_div, inv_mul_eq_div]
  have hnonneg : 0 ≤ x ⬝ᵥ x / opts.lambda :=
    div_nonneg (Finset.sum_nonneg fun i _ => mul_self_nonneg (x i)) h.lambda.le
  have hmean : (((freshArm opts).n : K) * ((freshArm opts).aInv *ᵥ (freshArm opts).b ⬝ᵥ x) +
      opts.priorStrength * (priorMinor / opts.rewardScaleMinor)) /
        ((freshArm opts).n + opts.priorStrength) = priorMinor / opts.rewardScaleMinor := by
    show (((0 : ℤ) : K) * _ + _) / (((0 : ℤ) : K) + _) = _
    rw [Int.cast_zero, zero_mul, zero_add, zero_add,
      mul_div_cancel_left₀ _ h.priorStrength.ne']
  show (_ / (_ : K) + opts.alpha * math.sqrt (max 0 (x ⬝ᵥ (freshArm opts).aInv *ᵥ x))) *
    opts.rewardScaleMinor = _
  rw [hquadratic, max_eq_right hnonneg, add_mul, coldBonus]
  congr 1
  exact (congrArg (· * opts.rewardScaleMinor) hmean).trans (div_mul_cancel₀ _ hscale)

/-- When a bandit that has learned nothing acts as the cost-aware policy: of a dead credential, if
    asking for a card is worth more than nothing with the bonus; of a retry that is worth it, if
    asking is not worth more; and else, if asking is not worth anything even with the bonus. -/
def ActsAlike (math : JsMath K) (opts : LinUcbOptions K) (score : ℚ) (features : RecoveryFeatures)
    (ctx : PolicyContext) : Prop :=
  let comms := commsPrior opts score features ctx
  let retry := retryPrior opts score features ctx
  let bonus := coldBonus math opts (featureVector math features)
  if deadCredential features.declineCode then 0 < comms + bonus
  else if RetryAllowed opts score features ctx then comms ≤ retry ∧ 0 < retry + bonus
  else comms + bonus ≤ 0

variable [FloorRing K]

/-- The action without data: the same bonus is added to both priors. -/
theorem decide_action_new (math : JsMath K) (model : RecoveryFeatures → ℚ)
    {opts : LinUcbOptions K} (hopts : opts.Positive) (features : RecoveryFeatures)
    (ctx : PolicyContext) :
    ((LinUcbBanditPolicy.new model opts).decide math features ctx).map (·.action) =
      if RetryAllowed opts (model features) features ctx ∧
          commsPrior opts (model features) features ctx ≤
            retryPrior opts (model features) features ctx then
        if retryPrior opts (model features) features ctx +
            coldBonus math opts (featureVector math features) ≤ 0 then some .suppress
        else (optimalRetryTime features ctx.now).map fun _ => .retry
      else if commsPrior opts (model features) features ctx +
          coldBonus math opts (featureVector math features) ≤ 0 then some .suppress
      else some .cardUpdateComms := by
  have hcomms : (LinUcbBanditPolicy.new model opts).commsBound math features ctx =
      commsPrior opts (model features) features ctx +
        coldBonus math opts (featureVector math features) := scoreArm_new math model hopts _ _ _
  have hretry : (LinUcbBanditPolicy.new model opts).retryBound math features ctx =
      retryPrior opts (model features) features ctx +
        coldBonus math opts (featureVector math features) := scoreArm_new math model hopts _ _ _
  rw [LinUcbBanditPolicy.decide_action, hcomms, hretry]
  simp only [add_le_add_iff_right, Rat.cast_le]
  rfl

/-- **A cold start.**  A bandit that has learned nothing chooses the action of the cost-aware policy
    of the same model and costs exactly where they act alike. -/
theorem cold_start_iff (math : JsMath K) (model : RecoveryFeatures → ℚ) {opts : LinUcbOptions K}
    (hopts : opts.Positive) (features : RecoveryFeatures) (ctx : PolicyContext)
    (hcost : ctx.cost.getD opts.cost = ctx.cost.getD defaultCostModel) :
    (((LinUcbBanditPolicy.new model opts).decide math features ctx).map (·.action) =
        ((CostAwarePolicy.mk model).decide features ctx).map (·.action)) ↔
      ActsAlike math opts (model features) features ctx := by
  have hright : ((CostAwarePolicy.mk model).decide features ctx).map (·.action) =
      chosenAction (model features)
        (ctx.config.getD defaultPolicyConfig).minRecoverabilityToRetry
        (retryPrior opts (model features) features ctx) features ctx.now := by
    rw [CostAwarePolicy.decide_action, retryPrior, hcost]
  rw [decide_action_new math model hopts, hright, ActsAlike]
  by_cases hdead : deadCredential features.declineCode
  · rw [chosenAction_dead ctx.now hdead, if_pos hdead, if_neg fun h => h.1.live hdead]
    split_ifs with hpos
    · simp [hpos]
    · simp [not_le.1 hpos]
  rw [if_neg hdead]
  by_cases hallowed : RetryAllowed opts (model features) features ctx
  · rw [if_pos hallowed, chosenAction_retry ctx.now hallowed]
    have htime : ∀ action, action ≠ RecoveryActionKind.retry → some action ≠
        (optimalRetryTime features ctx.now).map fun _ => RecoveryActionKind.retry := by
      intro action hne heq
      obtain ⟨timing, -, haction⟩ := Option.map_eq_some_iff.1 heq.symm
      exact hne haction.symm
    by_cases hle : commsPrior opts (model features) features ctx ≤
        retryPrior opts (model features) features ctx
    · rw [if_pos ⟨hallowed, hle⟩, and_iff_right hle]
      split_ifs with hpos
      · exact iff_of_false (htime .suppress (by decide)) (not_lt.2 hpos)
      · exact iff_of_true rfl (not_le.1 hpos)
    · rw [if_neg fun h => hle h.2]
      refine iff_of_false ?_ fun h => hle h.1
      split_ifs with hpos
      · exact htime .suppress (by decide)
      · exact htime .cardUpdateComms (by decide)
  · rw [if_neg hallowed, chosenAction_suppress ctx.now hdead hallowed, if_neg fun h => hallowed h.1]
    split_ifs with hpos
    · simp [hpos]
    · simp [hpos]

end

/-! ## The default options -/

/-- The logarithm and the square root of the reals. -/
noncomputable def realMath : JsMath ℝ := ⟨fun x => Real.log (1 + x), Real.sqrt⟩

theorem defaultLinUcbOptions_positive : (defaultLinUcbOptions ℝ).Positive where
  lambda := one_pos
  priorStrength := by norm_num [defaultLinUcbOptions]
  rewardScaleMinor := by norm_num [defaultLinUcbOptions]

/-- Every vector has a one at its decline code. -/
theorem exists_featureVector_one {K : Type} [Field K] (math : JsMath K) (f : RecoveryFeatures) :
    ∃ i, featureVector math f i = 1 := by
  have hcode : f.declineCode ∈ declineOrder := by cases f.declineCode <;> decide
  have hone : (1 : K) ∈ encodeFeatures math f :=
    List.mem_append_left _ (List.mem_map.2 ⟨f.declineCode, hcode, if_pos rfl⟩)
  obtain ⟨n, hn⟩ := List.get_of_mem hone
  exact ⟨n.cast (length_encodeFeatures math f), hn⟩

/-- Without data, exploration adds at least 4000 minor units. -/
theorem le_coldBonus_default (f : RecoveryFeatures) :
    4000 ≤ coldBonus realMath (defaultLinUcbOptions ℝ) (featureVector realMath f) := by
  obtain ⟨i, hi⟩ := exists_featureVector_one realMath f
  have hsquare : 1 ≤ featureVector realMath f ⬝ᵥ featureVector realMath f := by
    have hle := Finset.single_le_sum
      (fun j _ => mul_self_nonneg (featureVector realMath f j)) (Finset.mem_univ i)
    rw [hi, one_mul] at hle
    exact hle
  have hsqrt : 1 ≤ Real.sqrt (featureVector realMath f ⬝ᵥ featureVector realMath f /
      (defaultLinUcbOptions ℝ).lambda) := by
    rw [show (defaultLinUcbOptions ℝ).lambda = 1 from rfl, div_one]
    exact Real.one_le_sqrt.2 hsquare
  show 4000 ≤ ((2 : ℕ) / (5 : ℕ) : ℝ) * Real.sqrt _ * (10000 : ℕ)
  push_cast
  linarith

/-- A card is never asked for at a loss of more than what it costs to ask. -/
theorem le_commsPrior_default {opts : LinUcbOptions ℝ} {score : ℚ} {features : RecoveryFeatures}
    {ctx : PolicyContext} (hcost : ctx.cost.getD opts.cost = defaultCostModel)
    (hamount : 0 ≤ features.amountMinor) : -5 ≤ commsPrior opts score features ctx := by
  have hgross : ∀ s : ℚ, (0 : ℚ) ≤ grossMinor s features.amountMinor defaultCostModel := by
    intro s
    have hmultiplier : 0 ≤ defaultCostModel.retentionMultiplier := by norm_num [defaultCostModel]
    exact Int.cast_nonneg (round_nonneg
      (mul_nonneg (mul_nonneg (le_max_left 0 s) hamount) hmultiplier))
  rw [commsPrior, hcost]
  refine le_sub_iff_add_le.2 ?_
  show -5 + (5 : ℚ) ≤ _
  rw [neg_add_cancel]
  exact hgross _

/-- With the default options and costs the bonus outweighs what it costs to ask for a card: nothing
    is suppressed, and the bandit acts as the cost-aware policy only of dead credentials and of
    retries that are worth it and more than asking. -/
theorem cold_start_default (model : RecoveryFeatures → ℚ) (features : RecoveryFeatures)
    (ctx : PolicyContext) (hcost : ctx.cost.getD defaultCostModel = defaultCostModel)
    (hamount : 0 ≤ features.amountMinor) :
    ActsAlike realMath (defaultLinUcbOptions ℝ) (model features) features ctx ↔
      deadCredential features.declineCode ∨
        RetryAllowed (defaultLinUcbOptions ℝ) (model features) features ctx ∧
          commsPrior (defaultLinUcbOptions ℝ) (model features) features ctx ≤
            retryPrior (defaultLinUcbOptions ℝ) (model features) features ctx := by
  have hbonus := le_coldBonus_default features
  have hcomms : (-5 : ℝ) ≤
      (commsPrior (defaultLinUcbOptions ℝ) (model features) features ctx : ℚ) := by
    exact_mod_cast le_commsPrior_default hcost hamount
  rw [ActsAlike]
  by_cases hdead : deadCredential features.declineCode
  · rw [if_pos hdead]
    exact iff_of_true (by linarith) (.inl hdead)
  rw [if_neg hdead]
  by_cases hallowed : RetryAllowed (defaultLinUcbOptions ℝ) (model features) features ctx
  · have hretry : (0 : ℝ) <
        (retryPrior (defaultLinUcbOptions ℝ) (model features) features ctx : ℚ) := by
      exact_mod_cast hallowed.profitable
    rw [if_pos hallowed, or_iff_right hdead, and_iff_right hallowed, and_iff_left (by linarith)]
  · rw [if_neg hallowed]
    refine iff_of_false (not_le.2 (by linarith)) ?_
    rintro (h | h)
    · exact hdead h
    · exact hallowed h.1

/-- A decision at noon, of a customer without another card. -/
def noon : PolicyContext := { now := "2026-08-16T12:00:00.000Z", methods := [] }

/-- A first failure to recover 60.00. -/
def sixty : RecoveryFeatures := { firstFailure with amountMinor := 6000 }

theorem retryAllowed_even : RetryAllowed (defaultLinUcbOptions ℝ) (1 / 2) sixty noon ∧
    commsPrior (defaultLinUcbOptions ℝ) (1 / 2) sixty noon ≤
      retryPrior (defaultLinUcbOptions ℝ) (1 / 2) sixty noon := by
  decide +kernel

/-- At an even chance both policies retry. -/
theorem cold_start_iff_even :
    ((LinUcbBanditPolicy.new (fun _ => 1 / 2) (defaultLinUcbOptions ℝ)).decide realMath sixty
        noon).map (·.action) =
      ((CostAwarePolicy.mk fun _ => 1 / 2).decide sixty noon).map (·.action) := by
  have halike := (cold_start_default (fun _ => 1 / 2) sixty noon rfl (by decide)).2
    (.inr retryAllowed_even)
  exact (cold_start_iff realMath (fun _ => 1 / 2) defaultLinUcbOptions_positive sixty noon rfl).2
    halike

/-- Of a recovery of 5.00 at a chance of one in a hundred the cost-aware policy suppresses the
    retry; a bandit that has learned nothing asks for another card. -/
theorem cold_start_fails :
    ((LinUcbBanditPolicy.new (fun _ => 1 / 100) (defaultLinUcbOptions ℝ)).decide realMath
        { firstFailure with amountMinor := 500 } noon).map (·.action) = some .cardUpdateComms ∧
      ((CostAwarePolicy.mk fun _ => 1 / 100).decide
        { firstFailure with amountMinor := 500 } noon).map (·.action) = some .suppress := by
  have hallowed : ¬ RetryAllowed (defaultLinUcbOptions ℝ) (1 / 100)
      { firstFailure with amountMinor := 500 } noon := by decide +kernel
  constructor
  · have hbonus := le_coldBonus_default { firstFailure with amountMinor := 500 }
    have hcomms : (-5 : ℝ) ≤ (commsPrior (defaultLinUcbOptions ℝ) (1 / 100)
        { firstFailure with amountMinor := 500 } noon : ℚ) := by
      exact_mod_cast le_commsPrior_default rfl (by decide)
    rw [decide_action_new realMath _ defaultLinUcbOptions_positive, if_neg fun h => hallowed h.1,
      if_neg (not_le.2 (by linarith))]
  · rw [CostAwarePolicy.decide_action]
    exact chosenAction_suppress _ (by decide) hallowed

/-- A bandit without data retries at an even chance. -/
theorem retry_above_floor_even :
    ∃ d, (LinUcbBanditPolicy.new (fun _ => 1 / 2) (defaultLinUcbOptions ℝ)).decide realMath
        sixty noon = some d ∧ d.action = .retry ∧
      ∃ d', (CostAwarePolicy.mk fun _ => 1 / 2).decide sixty
          { noon with cost := some defaultCostModel } = some d' ∧
        d'.action = .retry ∧ d'.retryAt = d.retryAt := by
  have hbonus := le_coldBonus_default sixty
  have hretry : (0 : ℝ) < (retryPrior (defaultLinUcbOptions ℝ) (1 / 2)
      sixty noon : ℚ) := by
    exact_mod_cast retryAllowed_even.1.profitable
  have haction := decide_action_new realMath (fun _ => 1 / 2) defaultLinUcbOptions_positive
    sixty noon
  rw [if_pos retryAllowed_even, if_neg (not_le.2 (by linarith))] at haction
  obtain ⟨timing, htiming⟩ := Option.isSome_iff_exists.1
    (show (optimalRetryTime sixty noon.now).isSome = true from
      by decide +kernel)
  rw [htiming, Option.map_some] at haction
  obtain ⟨d, hd, hd'⟩ := Option.map_eq_some_iff.1 haction
  obtain ⟨-, -, -, d', h', haction', hat, -⟩ := retry_above_floor realMath _ _ _ hd hd'
  exact ⟨d, hd, hd', d', h', haction', hat⟩

end AX10M
