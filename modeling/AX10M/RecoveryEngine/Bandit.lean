/-
  The contextual bandit (`contextual-bandit.ts` and `features.ts` of `@ax10m/recovery-engine`).

  For each action the policy keeps `A = λI + Σxxᵀ`, its inverse, `b = Σr·x` and the number `n` of
  outcomes.  Numbers are those of an ordered field; the logarithm and the square root are
  parameters.

  * `stats_learn`: an observation adds its `xxᵀ`, `r·x` and `1` to the statistics of its arm;
  * `learn_sound`: the inverse that is kept stays the inverse of `A`;
  * `restore_eq`: so what a policy has learned is restored from its statistics;
  * what an arm learns is a run of observations of its matrix and the inverse beside it
    (`ridge_run`), so the inverse stays exact; a policy that restores the snapshot of another is the
    other, and decides as it does (`rank_one_inverse`).
-/
import AX10M.Matrices.Ridge
import AX10M.RecoveryEngine.Objective

namespace AX10M

open Js Matrices Matrix

/-! ## Features as a vector -/

/-- The order of the codes in a vector (`DECLINE_ORDER`). -/
def declineOrder : List DeclineCode :=
  [.insufficientFunds, .issuerUnavailable, .processingError, .velocityLimitExceeded,
    .authenticationRequired, .tryAgainLater, .lostCard, .stolenCard, .closedAccount, .invalidCard,
    .pickupCard, .cardNotSupported, .revocationOfAuthorization, .doNotHonor, .fraudulent,
    .expiredCard, .unknown]

/-- The order of the regions (`REGION_ORDER`). -/
def regionOrder : List IssuerRegion := [.na, .emea, .latam, .apac, .unknown]

/-- The order of the card products (`CARD_TYPE_ORDER`). -/
def cardTypeOrder : List CardProductType := [.credit, .debit, .prepaid]

/-- The number of dimensions (`FEATURE_DIM`). -/
def featureDim : ℕ := declineOrder.length + (1 + (regionOrder.length + (5 + cardTypeOrder.length)))

/-- The functions of `Math` that a field does not have. -/
structure JsMath (K : Type) where
  log1p : K → K
  sqrt : K → K

section

variable {K : Type} [Field K]

/-- A vector of zeros with a one where an item is found in an order. -/
def oneHot {α : Type} [DecidableEq α] (order : List α) (a : α) : List K :=
  order.map fun o => if a = o then 1 else 0

/-- `clamp01`. -/
def clamp01 (v : ℚ) : ℚ := if v < 0 then 0 else if v > 1 then 1 else v

/-- The entries of a feature vector. -/
def encodeFeatures (math : JsMath K) (f : RecoveryFeatures) : List K :=
  oneHot declineOrder f.declineCode ++ ([math.log1p ((max 0 f.amountMinor : ℚ) : K) / (12 : ℕ)] ++
    (oneHot regionOrder f.issuerRegion ++
      ([((min (max 0 f.customerTenureDays / 365) 3 : ℚ) : K), (clamp01 f.priorRecoveryRate : K),
        (((min (f.attemptNumber - 1) 6 : ℕ) : ℚ) / 6 : ℚ),
        ((min (max 0 f.daysSinceFirstFail / 30) 2 : ℚ) : K), (clamp01 f.issuerApprovalPrior : K)] ++
        oneHot cardTypeOrder f.cardType)))

theorem length_encodeFeatures (math : JsMath K) (f : RecoveryFeatures) :
    (encodeFeatures math f).length = featureDim := by
  simp [encodeFeatures, oneHot, featureDim]
  omega

/-- The feature vector. -/
def featureVector (math : JsMath K) (f : RecoveryFeatures) : Fin featureDim → K :=
  fun i => (encodeFeatures math f).get (i.cast (length_encodeFeatures math f).symm)

end

/-! ## Arms and their state -/

inductive BanditArm where
  | retry | cardUpdateComms
  deriving DecidableEq, Repr

/-- The arm an action is of. -/
def RecoveryActionKind.arm : RecoveryActionKind → Option BanditArm
  | retry => some .retry
  | cardUpdateComms => some .cardUpdateComms
  | suppress => none

structure LinUcbOptions (K : Type) where
  alpha : K
  lambda : K
  priorStrength : K
  rewardScaleMinor : K
  softCommsDamping : ℚ
  cost : CostModel

/-- The defaults (`DEFAULT_LINUCB_OPTIONS`, and the cost model that is used without one). -/
def defaultLinUcbOptions (K : Type) [Field K] : LinUcbOptions K where
  alpha := (2 : ℕ) / (5 : ℕ)
  lambda := 1
  priorStrength := (20 : ℕ)
  rewardScaleMinor := (10000 : ℕ)
  softCommsDamping := 3 / 20
  cost := defaultCostModel

/-- The statistics of an arm. -/
structure BanditArmSnapshot (K : Type) where
  a : Matrix (Fin featureDim) (Fin featureDim) K
  b : Fin featureDim → K
  n : ℤ

/-- The statistics with the inverse of `a` beside them. -/
structure ArmState (K : Type) extends BanditArmSnapshot K where
  aInv : Matrix (Fin featureDim) (Fin featureDim) K

/-- The state that is stored and pooled; its dimension is that of its type. -/
structure LinUcbBanditState (K : Type) where
  lambda : K
  arms : BanditArm → BanditArmSnapshot K

/-- The policy: the model of the prior, the options, and what was learned. -/
structure LinUcbBanditPolicy (K : Type) where
  model : RecoveryFeatures → ℚ
  opts : LinUcbOptions K
  arms : BanditArm → ArmState K

section

variable {K : Type} [Field K]

/-- An arm that has learned nothing. -/
def freshArm (opts : LinUcbOptions K) : ArmState K where
  a := opts.lambda • 1
  aInv := (1 / opts.lambda) • 1
  b := 0
  n := 0

namespace LinUcbBanditPolicy

/-- A policy that has learned nothing (the constructor). -/
def new (model : RecoveryFeatures → ℚ) (opts : LinUcbOptions K) : LinUcbBanditPolicy K :=
  ⟨model, opts, fun _ => freshArm opts⟩

/-- What is stored of a policy. -/
def snapshot (p : LinUcbBanditPolicy K) : LinUcbBanditState K :=
  ⟨p.opts.lambda, fun arm => (p.arms arm).toBanditArmSnapshot⟩

end LinUcbBanditPolicy

/-- The state of nothing learned. -/
def emptyBanditState (lambda : K) : LinUcbBanditState K :=
  ⟨lambda, fun _ => ⟨lambda • 1, 0, 0⟩⟩

/-- What is pooled: the stored state and the difference between two states of a process. -/
def mergeBanditDelta (persisted current baseline : LinUcbBanditState K) : LinUcbBanditState K where
  lambda := persisted.lambda
  arms arm :=
    let p := persisted.arms arm
    let c := current.arms arm
    let base := baseline.arms arm
    { a := p.a + (c.a - base.a), b := p.b + (c.b - base.b), n := p.n + (c.n - base.n) }

end

/-! ## Learning and restoring -/

namespace LinUcbBanditPolicy

section

variable {K : Type} [Field K] [LinearOrder K]

/-- What one outcome changes in its arm. -/
def updateArm (opts : LinUcbOptions K) (x : Fin featureDim → K) (realizedRewardMinor : ℚ)
    (state : ArmState K) : ArmState K :=
  let r := (realizedRewardMinor : K) / opts.rewardScaleMinor
  { aInv := shermanMorrisonUpdate state.aInv x
    a := of fun i j => if x i ≠ 0 then state.a i j + x i * x j else state.a i j
    b := fun i => if x i ≠ 0 then state.b i + r * x i else state.b i
    n := state.n + 1 }

/-- One realized outcome; no reward is learned for a suppressed action. -/
def update (math : JsMath K) (p : LinUcbBanditPolicy K) (features : RecoveryFeatures)
    (decision : RecoveryDecision) (realizedRewardMinor : ℚ) : LinUcbBanditPolicy K :=
  match decision.action.arm with
  | none => p
  | some arm =>
    let x := featureVector math features
    let state := updateArm p.opts x realizedRewardMinor (p.arms arm)
    { p with arms := Function.update p.arms arm state }

/-- The policy with the statistics of a state, and their inverses computed anew. -/
def restore (p : LinUcbBanditPolicy K) (state : LinUcbBanditState K) : LinUcbBanditPolicy K :=
  { p with arms := fun arm => { state.arms arm with aInv := invertMatrix (state.arms arm).a } }

/-! ### Decisions -/

structure ArmScore (K : Type) where
  ucbMinor : K
  meanMinor : K

/-- The learned net value of an arm, blended with the prior, and its upper bound. -/
def scoreArm (math : JsMath K) (p : LinUcbBanditPolicy K) (arm : BanditArm)
    (x : Fin featureDim → K) (priorMinor : ℚ) : ArmScore K :=
  let state := p.arms arm
  let theta := state.aInv *ᵥ state.b
  let learnedScaled := theta ⬝ᵥ x
  let priorScaled := (priorMinor : K) / p.opts.rewardScaleMinor
  let k := p.opts.priorStrength
  let blendedScaled := (state.n * learnedScaled + k * priorScaled) / (state.n + k)
  let variance := max 0 (x ⬝ᵥ state.aInv *ᵥ x)
  let bonusScaled := p.opts.alpha * math.sqrt variance
  ⟨(blendedScaled + bonusScaled) * p.opts.rewardScaleMinor,
    blendedScaled * p.opts.rewardScaleMinor⟩

end

end LinUcbBanditPolicy

/-- A decision with the fields the service does not read. -/
structure BanditDecision extends RecoveryDecision where
  paymentMethodRef : Option String := none
  netValueMinor : ℤ
  costBreakdown : Option ActionCost := none

namespace LinUcbBanditPolicy

section

variable {K : Type} [Field K] [LinearOrder K] [FloorRing K]

/-- The action with the best upper bound, if that is positive; `none` where the time of a retry
    throws. -/
def decide (math : JsMath K) (p : LinUcbBanditPolicy K) (features : RecoveryFeatures)
    (ctx : PolicyContext) : Option BanditDecision :=
  let cfg := ctx.config.getD defaultPolicyConfig
  let cost := ctx.cost.getD p.opts.cost
  let score := p.model features
  let x := featureVector math features
  let deadCredential := familyOf features.declineCode = .hard ∨ features.declineCode = .expiredCard
  let commsScore := if deadCredential then score else score * p.opts.softCommsDamping
  let retryValue := retryNetValue score features.amountMinor cost ctx.compliance
  let commsValue := commsNetValue commsScore features.amountMinor cost
  let comms := p.scoreArm math .cardUpdateComms x commsValue.netValueMinor
  let best : BanditArm × ArmScore K :=
    if ¬ deadCredential ∧ score ≥ cfg.minRecoverabilityToRetry ∧ retryValue.netValueMinor > 0 then
      let retry := p.scoreArm math .retry x retryValue.netValueMinor
      if comms.ucbMinor > retry.ucbMinor then (.cardUpdateComms, comms) else (.retry, retry)
    else (.cardUpdateComms, comms)
  let mean := Js.round best.2.meanMinor
  let ucb := Js.round best.2.ucbMinor
  if best.2.ucbMinor ≤ 0 then
    some { action := .suppress, recoverabilityScore := score, expectedValueMinor := mean,
           netValueMinor := mean, rationale := s!"Bandit: no action beats suppress " ++
             s!"(best net value {ucb} minor ≤ 0) — suppress." }
  else match best.1 with
    | .cardUpdateComms =>
      let dead := if deadCredential then s!"{features.declineCode.text}: dead credential — " else ""
      some { action := .cardUpdateComms, recoverabilityScore := score, expectedValueMinor := mean,
             netValueMinor := mean, costBreakdown := some commsValue.cost,
             rationale := dead ++ s!"bandit chose card-update comms " ++
               s!"(learned net value {mean} minor, ucb {ucb})." }
    | .retry =>
      (optimalRetryTime features ctx.now).map fun timing =>
        let fine := retryValue.cost.fineCostMinor
        let fineNote := if fine > 0 then s!", fine-risk {fine}" else ""
        { action := .retry, retryAt := some timing.retryAt,
          paymentMethodRef := (selectMethod features ctx.methods).map AvailableMethod.ref,
          recoverabilityScore := score, expectedValueMinor := mean, netValueMinor := mean,
          costBreakdown := some retryValue.cost,
          rationale := timing.rationale ++
            s!" bandit retry: learned net value {mean} minor (ucb {ucb}{fineNote})." }

end

end LinUcbBanditPolicy

/-! ## Statistics add up -/

/-- The statistics of an arm as an element of a group. -/
abbrev ArmStats (K : Type) :=
  Matrix (Fin featureDim) (Fin featureDim) K × (Fin featureDim → K) × ℤ

/-- The statistics of all arms. -/
abbrev BanditStats (K : Type) := BanditArm → ArmStats K

/-- What a policy is told of one action. -/
structure Observation where
  features : RecoveryFeatures
  decision : RecoveryDecision
  realizedRewardMinor : ℚ

/-- The statistics of a state. -/
def LinUcbBanditState.stats {K : Type} (s : LinUcbBanditState K) : BanditStats K :=
  fun arm => ((s.arms arm).a, (s.arms arm).b, (s.arms arm).n)

theorem arms_eq_of_stats {K : Type} {s s' : LinUcbBanditState K} (h : s.stats = s'.stats) :
    s.arms = s'.arms := by
  funext arm
  have harm := congrFun h arm
  simp only [LinUcbBanditState.stats, Prod.mk.injEq] at harm
  obtain ⟨ha, hb, hn⟩ := harm
  cases hs : s.arms arm
  cases hs' : s'.arms arm
  simp only [hs, hs'] at ha hb hn
  rw [ha, hb, hn]

section

variable {K : Type} [Field K]

/-- What an observation adds to the statistics. -/
def Observation.gain (math : JsMath K) (opts : LinUcbOptions K) (o : Observation) :
    BanditStats K :=
  match o.decision.action.arm with
  | none => 0
  | some arm =>
    let x := featureVector math o.features
    Pi.single arm (vecMulVec x x, ((o.realizedRewardMinor : K) / opts.rewardScaleMinor) • x, 1)

@[simp] theorem stats_mergeBanditDelta (persisted current baseline : LinUcbBanditState K) :
    (mergeBanditDelta persisted current baseline).stats =
      persisted.stats + (current.stats - baseline.stats) := rfl

namespace LinUcbBanditPolicy

@[simp] theorem snapshot_new (model : RecoveryFeatures → ℚ) (opts : LinUcbOptions K) :
    (new model opts).snapshot = emptyBanditState opts.lambda := rfl

variable [LinearOrder K]

@[simp] theorem stats_restore (p : LinUcbBanditPolicy K) (state : LinUcbBanditState K) :
    (p.restore state).snapshot.stats = state.stats := rfl

/-- An outcome of an observation. -/
def learn (math : JsMath K) (p : LinUcbBanditPolicy K) (o : Observation) : LinUcbBanditPolicy K :=
  p.update math o.features o.decision o.realizedRewardMinor

@[simp] theorem learn_opts (math : JsMath K) (p : LinUcbBanditPolicy K) (o : Observation) :
    (p.learn math o).opts = p.opts := by
  unfold learn update
  cases o.decision.action.arm <;> rfl

@[simp] theorem learn_model (math : JsMath K) (p : LinUcbBanditPolicy K) (o : Observation) :
    (p.learn math o).model = p.model := by
  unfold learn update
  cases o.decision.action.arm <;> rfl

/-- What the loops of an update add. -/
theorem updateArm_eq (opts : LinUcbOptions K) (x : Fin featureDim → K) (reward : ℚ)
    (state : ArmState K) :
    (updateArm opts x reward state).a = state.a + vecMulVec x x ∧
      (updateArm opts x reward state).b =
        state.b + ((reward : K) / opts.rewardScaleMinor) • x := by
  constructor
  · exact Ridge.observe_a ⟨state.a, state.aInv⟩ x
  · ext i
    by_cases hx : x i = 0
    · simp [updateArm, hx]
    · simp [updateArm, hx]

/-- A policy that learns keeps its model and its options. -/
theorem foldl_learn_same (math : JsMath K) (os : List Observation) (p : LinUcbBanditPolicy K) :
    (os.foldl (learn math) p).model = p.model ∧ (os.foldl (learn math) p).opts = p.opts := by
  induction os generalizing p with
  | nil => exact ⟨rfl, rfl⟩
  | cons o os ih =>
    obtain ⟨hmodel, hopts⟩ := ih (p.learn math o)
    exact ⟨hmodel.trans (learn_model math p o), hopts.trans (learn_opts math p o)⟩

theorem stats_learn (math : JsMath K) (p : LinUcbBanditPolicy K) (o : Observation) :
    (p.learn math o).snapshot.stats = p.snapshot.stats + o.gain math p.opts := by
  unfold learn update Observation.gain
  cases o.decision.action.arm with
  | none => exact (add_zero _).symm
  | some arm =>
    funext arm'
    obtain ⟨ha, hb⟩ := updateArm_eq p.opts (featureVector math o.features) o.realizedRewardMinor
      (p.arms arm)
    by_cases harm : arm' = arm
    · subst harm
      simp only [LinUcbBanditState.stats, snapshot, Function.update_self, Pi.add_apply,
        Pi.single_eq_same, ha, hb]
      rfl
    · simp only [LinUcbBanditState.stats, snapshot, Function.update_of_ne harm, Pi.add_apply,
        Pi.single_eq_of_ne harm, add_zero]

end LinUcbBanditPolicy

/-! ## The inverse that is kept -/

variable [LinearOrder K]

/-- An arm whose `A` is positive definite, with its inverse. -/
structure ArmState.Sound (s : ArmState K) : Prop where
  posDef : PosDef s.a
  inv : s.aInv * s.a = 1

/-- The statistics of a sound arm determine its inverse. -/
theorem ArmState.Sound.eq {s s' : ArmState K} (h : s.Sound) (h' : s'.Sound)
    (hstats : s.toBanditArmSnapshot = s'.toBanditArmSnapshot) : s = s' := by
  have hinv : s.aInv = s'.aInv := by
    refine left_inv_eq_left_inv h.inv ?_
    rw [hstats]
    exact h'.inv
  cases s
  cases s'
  simp only at hstats hinv
  rw [hstats, hinv]

variable [IsStrictOrderedRing K]

theorem freshArm_sound {opts : LinUcbOptions K} (h : 0 < opts.lambda) : (freshArm opts).Sound where
  posDef := posDef_smul_one h
  inv := (Ridge.exact_fresh h).inverse

namespace LinUcbBanditPolicy

theorem updateArm_sound (opts : LinUcbOptions K) (x : Fin featureDim → K) (reward : ℚ)
    {state : ArmState K} (h : state.Sound) : (updateArm opts x reward state).Sound := by
  obtain ⟨ha, -⟩ := updateArm_eq opts x reward state
  constructor
  · rw [ha]
    exact h.posDef.add_vecMulVec x
  · rw [ha]
    exact shermanMorrisonUpdate_mul h.posDef h.inv x

/-- Every arm of the policy keeps the inverse of its matrix. -/
def Sound (p : LinUcbBanditPolicy K) : Prop := ∀ arm, (p.arms arm).Sound

theorem new_sound (model : RecoveryFeatures → ℚ) {opts : LinUcbOptions K}
    (h : 0 < opts.lambda) : (new model opts).Sound := fun _ => freshArm_sound h

theorem learn_sound (math : JsMath K) {p : LinUcbBanditPolicy K} (h : p.Sound) (o : Observation) :
    (p.learn math o).Sound := by
  unfold learn update
  cases o.decision.action.arm with
  | none => exact h
  | some arm =>
    intro arm'
    by_cases harm : arm' = arm
    · subst harm
      simp only [Function.update_self]
      exact updateArm_sound _ _ _ (h arm')
    · simp only [Function.update_of_ne harm]
      exact h arm'

theorem foldl_learn_sound (math : JsMath K) (os : List Observation) {p : LinUcbBanditPolicy K}
    (h : p.Sound) : (os.foldl (learn math) p).Sound := by
  induction os generalizing p with
  | nil => exact h
  | cons o os ih => exact ih (learn_sound math h o)

/-- A state with positive definite matrices restores a sound policy. -/
theorem restore_sound (p : LinUcbBanditPolicy K) {state : LinUcbBanditState K}
    (h : ∀ arm, PosDef (state.arms arm).a) : (p.restore state).Sound :=
  fun arm => ⟨h arm, invertMatrix_mul fun _ hv => (h arm).kernel hv⟩

/-- A sound policy is restored from its statistics by any policy of its model and options. -/
theorem restore_eq {p q : LinUcbBanditPolicy K} (h : q.Sound) (hmodel : p.model = q.model)
    (hopts : p.opts = q.opts) {state : LinUcbBanditState K}
    (hstats : state.stats = q.snapshot.stats) : p.restore state = q := by
  have harms := arms_eq_of_stats hstats
  have hsound : (p.restore state).Sound := by
    refine p.restore_sound fun arm => ?_
    rw [harms]
    exact (h arm).posDef
  have heq : (p.restore state).arms = q.arms := by
    funext arm
    exact (hsound arm).eq (h arm) (congrFun harms arm)
  cases p
  cases q
  simp only [restore] at heq hmodel hopts ⊢
  rw [heq, hmodel, hopts]

end LinUcbBanditPolicy

end

end AX10M

namespace AX10M

open Matrices Matrix

/-! ## The arms of a policy -/

section

variable {K : Type} [Field K]

/-- The matrix of an arm with its inverse. -/
def ArmState.ridge (s : ArmState K) : Ridge K featureDim := ⟨s.a, s.aInv⟩

/-- The vector that an observation has an arm learn. -/
def Observation.vector (math : JsMath K) (arm : BanditArm) (o : Observation) :
    Option (Fin featureDim → K) :=
  if o.decision.action.arm = some arm then some (featureVector math o.features) else none

namespace LinUcbBanditPolicy

variable [LinearOrder K]

/-- What a policy has become of by a run of observations. -/
def learnAll (math : JsMath K) (p : LinUcbBanditPolicy K) (observations : List Observation) :
    LinUcbBanditPolicy K := observations.foldl (learn math) p

theorem ridge_learn (math : JsMath K) (p : LinUcbBanditPolicy K) (o : Observation)
    (arm : BanditArm) : ((p.learn math o).arms arm).ridge =
      (o.vector math arm).elim (p.arms arm).ridge (p.arms arm).ridge.observe := by
  unfold learn update Observation.vector
  cases haction : o.decision.action.arm with
  | none => rfl
  | some arm' =>
    by_cases harm : arm' = arm
    · subst harm
      simp only [if_true, Function.update_self]
      rfl
    · rw [if_neg (fun h => harm (Option.some.inj h))]
      simp only [Function.update_of_ne (Ne.symm harm)]
      rfl

/-- An arm of a policy has observed the vectors it was to learn. -/
theorem ridge_run (math : JsMath K) (p : LinUcbBanditPolicy K) (observations : List Observation)
    (arm : BanditArm) : ((p.learnAll math observations).arms arm).ridge =
      (observations.filterMap (Observation.vector math arm)).foldl Ridge.observe
        (p.arms arm).ridge := by
  induction observations generalizing p with
  | nil => rfl
  | cons o observations ih =>
    show (((p.learn math o).learnAll math observations).arms arm).ridge = _
    rw [ih, ridge_learn, List.filterMap_cons]
    cases o.vector math arm <;> rfl

end LinUcbBanditPolicy

end

open LinUcbBanditPolicy in
/-- **The inverse is kept.**  In any number of dimensions and for every `λ > 0`, after every run of
    observations the inverse that is kept is the inverse of the matrix, which is symmetric and
    positive definite; the denominator of every update is at least `1`, no radicand is negative, and
    elimination finds the same inverse.  So it is for the arms of a policy, whatever it has
    learned, and a policy that restores its snapshot decides as it does. -/
theorem rank_one_inverse {K : Type} [Field K] [LinearOrder K] [IsStrictOrderedRing K]
    [FloorRing K] :
    (∀ (d : ℕ) (lambda : K), 0 < lambda → ∀ xs : List (Fin d → K),
      (xs.foldl Ridge.observe (Ridge.fresh lambda)).Exact) ∧
    ∀ (math : JsMath K) (model : RecoveryFeatures → ℚ) (opts : LinUcbOptions K),
      0 < opts.lambda → ∀ observations : List Observation,
        let p := (new model opts).learnAll math observations
        (∀ arm, (p.arms arm).ridge =
            (observations.filterMap (Observation.vector math arm)).foldl Ridge.observe
              (Ridge.fresh opts.lambda) ∧ (p.arms arm).ridge.Exact) ∧
        ∀ q : LinUcbBanditPolicy K, q.model = model → q.opts = opts →
          q.restore p.snapshot = p ∧ ∀ features ctx,
            (q.restore p.snapshot).decide math features ctx = p.decide math features ctx := by
  refine ⟨fun d lambda h xs => Ridge.exact_run (Ridge.exact_fresh h) xs, ?_⟩
  intro math model opts h observations
  have hrun : ∀ arm, (((new model opts).learnAll math observations).arms arm).ridge =
      (observations.filterMap (Observation.vector math arm)).foldl Ridge.observe
        (Ridge.fresh opts.lambda) := ridge_run math (new model opts) observations
  refine ⟨?_, ?_⟩
  · intro arm
    refine ⟨hrun arm, ?_⟩
    rw [hrun arm]
    exact Ridge.exact_run (Ridge.exact_fresh h) _
  · intro q hmodel hopts
    obtain ⟨hmodel', hopts'⟩ := foldl_learn_same math observations (new model opts)
    have hrestore : q.restore ((new model opts).learnAll math observations).snapshot =
        (new model opts).learnAll math observations :=
      restore_eq (foldl_learn_sound math observations (new_sound model h))
        (hmodel.trans hmodel'.symm) (hopts.trans hopts'.symm) rfl
    exact ⟨hrestore, fun features ctx => by rw [hrestore]⟩

/-- A retry of it that succeeded. -/
def firstRetry : Observation where
  features := firstFailure
  decision :=
    { action := .retry, recoverabilityScore := 1 / 2, expectedValueMinor := 0, rationale := "retry" }
  realizedRewardMinor := 100

/-- Two vectors in two dimensions, and a policy that has learned an outcome; of an amount of zero
    the logarithm is the amount itself. -/
theorem rank_one_inverse_two :
    ([![1, 2], ![3, 0]].foldl Ridge.observe (Ridge.fresh (1 : ℚ))).Exact ∧
      (LinUcbBanditPolicy.new (fun _ => 1 / 2) (defaultLinUcbOptions ℚ)).restore
          (((LinUcbBanditPolicy.new (fun _ => 1 / 2) (defaultLinUcbOptions ℚ)).learnAll ⟨id, id⟩
            [firstRetry]).snapshot) =
        (LinUcbBanditPolicy.new (fun _ => 1 / 2) (defaultLinUcbOptions ℚ)).learnAll ⟨id, id⟩
          [firstRetry] :=
  ⟨rank_one_inverse.1 2 1 one_pos _,
    ((rank_one_inverse.2 ⟨id, id⟩ (fun _ => 1 / 2) (defaultLinUcbOptions ℚ) one_pos
      [firstRetry]).2 _ rfl rfl).1⟩

end AX10M
