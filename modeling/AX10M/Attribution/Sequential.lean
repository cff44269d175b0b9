/-
  Billing-safe uplift estimation (`@ax10m/attribution`, `sequential.ts`): CUPED,
  post-stratification with cluster-robust standard errors, and the lower bound of an
  always-valid confidence sequence, which is what is billed.

  The estimator computes in an ordered field `K`, with its square root and logarithm.
-/
import AX10M.Attribution.Holdout
import AX10M.Js.Map
import AX10M.Js.Number

namespace AX10M

open Js

/-- `Math.sqrt` and `Math.log`, and the text of a number. -/
structure MathOps (K : Type) where
  sqrt : K → K
  log : K → K
  text : K → String

/-- A failed invoice with its arm, its randomization cluster and its outcome. -/
structure UpliftObservation (K : Type) where
  arm : Bucket
  cluster : String
  stratum : String
  /-- billable outcome in minor units -/
  outcome : K
  /-- pre-failure covariate -/
  covariate : K
  recovered : Bool

/-- The same observation in another field of numbers. -/
def UpliftObservation.map {K L : Type} (f : K → L) (o : UpliftObservation K) :
    UpliftObservation L :=
  { o with outcome := f o.outcome, covariate := f o.covariate }

structure SequentialUpliftConfig (K : Type) where
  alpha : K
  tau2 : K
  feeRate : K
  minControlClusters : ℕ
  minTreatedInvoices : ℕ
  perStratumFloor : ℕ
  expectedControlFraction : K
  srmThreshold : K
  currency : String
  useCuped : Bool

/-- `DEFAULT_SEQUENTIAL_CONFIG`. -/
def defaultSequentialConfig (K : Type) [Field K] : SequentialUpliftConfig K where
  alpha := 5 / 100
  tau2 := 4000000
  feeRate := 12 / 100
  minControlClusters := 300
  minTreatedInvoices := 300
  perStratumFloor := 50
  expectedControlFraction := 1 / 10
  srmThreshold := 1083 / 100
  currency := "USD"
  useCuped := true

structure StratumLine (K : Type) where
  stratumKey : String
  controlInvoices : ℕ
  treatmentInvoices : ℕ
  controlRate : K
  treatmentRate : K
  deltaPerStratum : K
  weight : K
  metFloor : Bool
  pooled : Bool

structure BillableUpliftResult (K : Type) where
  controlRate : K
  treatmentRate : K
  rateDiff : K
  cupedTheta : K
  cupedVarianceReduction : K
  deltaPer : K
  se : K
  effectiveN : K
  halfWidth : K
  lowerPer : K
  treatedInvoices : ℕ
  controlClusters : ℕ
  /-- proven lower-bound dollars -/
  lowerDollarsCum : ℤ
  priorBilledDollars : ℚ
  billableIncrement : ℚ
  fee : ℤ
  chiSquare : Number K
  breached : Bool
  billable : Bool
  gateReasons : List String
  perStratum : List (StratumLine K)

/-- The outcomes and clusters of an arm in a stratum. -/
structure ArmSlice (K : Type) where
  values : List K
  clusters : List String
  recovered : ℕ

/-- The arms of a stratum. -/
structure Cell (K : Type) where
  control : ArmSlice K
  treatment : ArmSlice K

section

variable {K : Type} [Field K] [LinearOrder K]

/-- Sample-ratio mismatch: a chi-square test of the split. -/
def srmCheck (controlN treatmentN : ℕ) (expectedControlFraction chiSquareThreshold : K) :
    Number K × Bool :=
  let total := controlN + treatmentN
  if total = 0 then (.fin 0, false)
  else
    let expControl := (total : K) * expectedControlFraction
    let expTreatment := (total : K) * (1 - expectedControlFraction)
    let chiSquare := (Number.div ((controlN - expControl) ^ 2) expControl).add
      (.div ((treatmentN - expTreatment) ^ 2) expTreatment)
    (chiSquare, chiSquare.gt chiSquareThreshold)

/-! ## The confidence sequence -/

/-- Half-width of the confidence sequence, of `n` observations. -/
def msprtHalfWidth (M : MathOps K) (perObsVar n tau2 alpha : K) : K :=
  if perObsVar ≤ 0 ∨ n ≤ 0 ∨ tau2 ≤ 0 then 0
  else
    let nTau2PlusVar := n * tau2 + perObsVar
    let prefactor := perObsVar * nTau2PlusVar / (n * n * tau2)
    let logArg := nTau2PlusVar / (alpha * alpha * perObsVar)
    M.sqrt (prefactor * M.log logArg)

/-- Half-width of the confidence sequence, from the standard error. -/
def msprtHalfWidthFromSe (M : MathOps K) (se tau2 alpha : K) : K :=
  if se ≤ 0 ∨ tau2 ≤ 0 then 0
  else
    let se2 := se * se
    se * M.sqrt ((1 + se2 / tau2) * M.log ((tau2 + se2) / (alpha * alpha * se2)))

/-! ## CUPED -/

/-- The mean, `0` of no values. -/
def mean (xs : List K) : K := if xs = [] then 0 else xs.foldl (· + ·) 0 / xs.length

/-- The population variance. -/
def variance (xs : List K) : K :=
  if xs = [] then 0 else xs.foldl (fun s x => s + (x - mean xs) ^ 2) 0 / xs.length

structure CupedFit (K : Type) where
  theta : K
  xbar : K
  varianceReduction : K

/-- Fit the covariate adjustment on the pooled sample. -/
def fitCuped (M : MathOps K) (outcomes covariates : List K) : CupedFit K :=
  let n := outcomes.length
  if n < 2 ∨ covariates.length ≠ n then ⟨0, mean covariates, 0⟩
  else
    let ybar := mean outcomes
    let xbar := mean covariates
    let ds := (outcomes.zip covariates).map fun p => (p.1 - ybar, p.2 - xbar)
    let cov := ds.foldl (fun s d => s + d.1 * d.2) (0 : K) / (n : K)
    let varX := ds.foldl (fun s d => s + d.2 * d.2) (0 : K) / (n : K)
    let varY := ds.foldl (fun s d => s + d.1 * d.1) (0 : K) / (n : K)
    if varX ≤ 0 ∨ varY ≤ 0 then ⟨0, xbar, 0⟩
    else
      let rho := cov / M.sqrt (varX * varY)
      ⟨cov / varX, xbar, rho * rho⟩

/-- Apply the adjustment to one outcome. -/
def applyCuped (outcome covariate : K) (fit : CupedFit K) : K :=
  outcome - fit.theta * (covariate - fit.xbar)

/-! ## Cluster-robust variance -/

/-- The distinct texts of a list, in order of first occurrence (`[...new Set(xs)]`). -/
def distinct (xs : List String) : List String :=
  xs.foldl (fun seen x => if x ∈ seen then seen else seen ++ [x]) []

/-- The cluster-robust variance of an arm mean. -/
def clusteredArmVariance (slice : ArmSlice K) : K :=
  let n := slice.values.length
  if n = 0 then 0
  else
    let ybar := mean slice.values
    let residuals := (slice.values.zip slice.clusters).foldl
      (fun (m : Map String K) p => m.add p.2 (p.1 - ybar)) Map.empty
    let sumSq := residuals.values.foldl (fun s r => s + r * r) 0
    let g := residuals.keys.length
    let smallG : K := if g > 1 then g / (g - 1 : ℕ) else 1
    sumSq / (n * n) * smallG

/-! ## Strata -/

/-- The observations of an arm. -/
def ofArm (arm : Bucket) (observations : List (UpliftObservation K)) :
    List (UpliftObservation K) :=
  observations.filter fun o => o.arm = arm

/-- The key of the pooled stratum. -/
def pooledKey : String := "__pooled__"

/-- The effective stratum: one below the per-arm floor is pooled. -/
def effStratum (config : SequentialUpliftConfig K) (observations : List (UpliftObservation K))
    (key : String) : String :=
  let obs := observations.filter fun o => o.stratum = key
  if config.perStratumFloor ≤ (ofArm .control obs).length ∧
      config.perStratumFloor ≤ (ofArm .treatment obs).length then key
  else pooledKey

/-- An arm without observations. -/
def emptySlice : ArmSlice K := ⟨[], [], 0⟩

/-- Add an observation to an arm. -/
def ArmSlice.push (slice : ArmSlice K) (value : K) (o : UpliftObservation K) : ArmSlice K :=
  ⟨slice.values ++ [value], slice.clusters ++ [o.cluster],
    slice.recovered + if o.recovered then 1 else 0⟩

/-- The arms of each effective stratum, on adjusted outcomes. -/
def strataOf (config : SequentialUpliftConfig K) (adj : UpliftObservation K → K)
    (observations : List (UpliftObservation K)) : Map String (Cell K) :=
  observations.foldl (fun strata o =>
    let key := effStratum config observations o.stratum
    let cell := (strata.get key).getD ⟨emptySlice, emptySlice⟩
    strata.set key (match o.arm with
      | .control => { cell with control := cell.control.push (adj o) o }
      | .treatment => { cell with treatment := cell.treatment.push (adj o) o })) Map.empty

/-- The share of recovered ones, `0` of none. -/
def rate (recovered n : ℕ) : K := if n > 0 then (recovered : K) / n else 0

/-- The weight of a stratum in the aggregate. -/
def stratumWeight (treatedInvoices : ℕ) (cell : Cell K) : K :=
  if treatedInvoices > 0 then (cell.treatment.values.length : K) / treatedInvoices else 0

/-- The difference of the arms of a stratum. -/
def stratumDelta (cell : Cell K) : K := mean cell.treatment.values - mean cell.control.values

/-- A stratum with an empty arm, or with a single cluster in an arm. -/
def unestimable (cell : Cell K) : Bool :=
  cell.treatment.values.length < 1 || cell.control.values.length < 1 ||
    (distinct cell.treatment.clusters).length < 2 || (distinct cell.control.clusters).length < 2

/-- The line of a stratum. -/
def stratumLine (treatedInvoices : ℕ) (p : String × Cell K) : StratumLine K :=
  let (key, cell) := p
  { stratumKey := key
    controlInvoices := cell.control.values.length
    treatmentInvoices := cell.treatment.values.length
    controlRate := rate cell.control.recovered cell.control.values.length
    treatmentRate := rate cell.treatment.recovered cell.treatment.values.length
    deltaPerStratum := stratumDelta cell
    weight := stratumWeight treatedInvoices cell
    metFloor := key ≠ pooledKey
    pooled := key = pooledKey }

/-! ## The billable estimator -/

/-- A misconfigured estimator is a range error. -/
def configError (M : MathOps K) (config : SequentialUpliftConfig K) : Option String :=
  if ¬ (config.alpha > 0 ∧ config.alpha < 1) then
    some s!"alpha must be in (0,1); got {M.text config.alpha}"
  else if ¬ config.tau2 > 0 then
    some s!"tau2 must be > 0; got {M.text config.tau2}"
  else if ¬ (config.feeRate ≥ 0 ∧ config.feeRate ≤ 1) then
    some s!"feeRate must be in [0,1]; got {M.text config.feeRate}"
  else none

theorem configError_feeRate {M : MathOps K} {config : SequentialUpliftConfig K}
    (h : configError M config = none) : config.feeRate ≥ 0 ∧ config.feeRate ≤ 1 := by
  unfold configError at h
  split_ifs at h with h1 h2 h3
  exact h3

/-- The pooled residual stratum is below the floor. -/
def pooledBelowFloor (config : SequentialUpliftConfig K) (lines : List (StratumLine K)) : Bool :=
  lines.any fun l => l.pooled && l.treatmentInvoices + l.controlInvoices > 0 &&
    (l.treatmentInvoices < config.perStratumFloor || l.controlInvoices < config.perStratumFloor)

/-- A gate that is not passed, with the reason. -/
def gate (failed : Bool) (reason : String) : List String := if failed then [reason] else []

/-- What the estimator measures before anything is billed. -/
structure Measurement (K : Type) where
  cuped : CupedFit K
  deltaPer : K
  se : K
  effectiveN : K
  halfWidth : K
  lowerPer : K
  treatedInvoices : ℕ
  controlClusters : ℕ
  srm : Number K × Bool
  gateReasons : List String
  perStratum : List (StratumLine K)
  controlRate : K
  treatmentRate : K

variable [FloorRing K]

/-- Measure the lift of the observations, and check the gates. -/
def measure (M : MathOps K) (observations : List (UpliftObservation K))
    (config : SequentialUpliftConfig K) : Measurement K :=
  let covariates := observations.map UpliftObservation.covariate
  let cuped := if config.useCuped then
    fitCuped M (observations.map UpliftObservation.outcome) covariates
    else ⟨0, mean covariates, 0⟩
  let adj := fun (o : UpliftObservation K) =>
    if config.useCuped then applyCuped o.outcome o.covariate cuped else o.outcome
  let strata := strataOf config adj observations
  let control := ofArm .control observations
  let treatment := ofArm .treatment observations
  let treatedInvoices := treatment.length
  let controlClusters := (distinct (control.map UpliftObservation.cluster)).length
  let treatmentClusters := (distinct (treatment.map UpliftObservation.cluster)).length
  let deltaPer := strata.values.foldl (fun d cell =>
    d + stratumWeight treatedInvoices cell * stratumDelta cell) 0
  let varDelta := strata.values.foldl (fun v cell =>
    let w := stratumWeight treatedInvoices cell
    v + w * w * (clusteredArmVariance cell.treatment + clusteredArmVariance cell.control)) 0
  let se := M.sqrt (max 0 varDelta)
  let perObsVar := variance (observations.map adj)
  let halfWidth := msprtHalfWidthFromSe M se config.tau2 config.alpha
  let lowerPer := max 0 (deltaPer - halfWidth)
  let srm := srmCheck controlClusters treatmentClusters config.expectedControlFraction
    config.srmThreshold
  let perStratum := strata.entries.map (stratumLine treatedInvoices)
  { cuped, deltaPer, se
    effectiveN := if perObsVar > 0 ∧ se > 0 then perObsVar / (se * se) else 0
    halfWidth, lowerPer, treatedInvoices, controlClusters, srm
    gateReasons :=
      gate (controlClusters < config.minControlClusters)
        s!"control customers {controlClusters} < {config.minControlClusters}" ++
      gate (treatedInvoices < config.minTreatedInvoices)
        s!"treated invoices {treatedInvoices} < {config.minTreatedInvoices}" ++
      -- the half-width is a number of the field, hence finite
      gate (se ≤ 0) "standard error unestimable (insufficient variation)" ++
      gate (strata.values.any unestimable)
        "a stratum has an empty arm or <2 clusters (variance unestimable)" ++
      gate (lowerPer ≤ 0) "lower bound not yet positive (lift unproven)" ++
      gate srm.2 ("SRM breached (χ²=" ++ srm.1.toFixed2 ++ ")") ++
      gate (pooledBelowFloor config perStratum) "pooled residual stratum below floor"
    perStratum
    controlRate := rate (control.filter UpliftObservation.recovered).length control.length
    treatmentRate := rate (treatment.filter UpliftObservation.recovered).length treatment.length }

/-- The proven lower-bound dollars of a measurement. -/
def Measurement.lowerDollars (m : Measurement K) : ℤ := Js.round (m.lowerPer * m.treatedInvoices)

/-- A measurement that passed every gate. -/
def Measurement.billable (m : Measurement K) : Bool := m.gateReasons = []

/-- Bill the newly proven increment of a measurement; a negative one is settled as a credit even
    if a gate fails. -/
def settle (m : Measurement K) (feeRate : K) (priorBilledDollars : ℚ) : BillableUpliftResult K :=
  let billableIncrement := m.lowerDollars - priorBilledDollars
  let shouldSettle := m.billable ∨ billableIncrement < 0
  { controlRate := m.controlRate
    treatmentRate := m.treatmentRate
    rateDiff := m.treatmentRate - m.controlRate
    cupedTheta := m.cuped.theta
    cupedVarianceReduction := m.cuped.varianceReduction
    deltaPer := m.deltaPer
    se := m.se
    effectiveN := m.effectiveN
    halfWidth := m.halfWidth
    lowerPer := m.lowerPer
    treatedInvoices := m.treatedInvoices
    controlClusters := m.controlClusters
    lowerDollarsCum := m.lowerDollars
    priorBilledDollars
    billableIncrement
    fee := if shouldSettle then Js.round (feeRate * (billableIncrement : K)) else 0
    chiSquare := m.srm.1
    breached := m.srm.2
    billable := m.billable
    gateReasons := m.gateReasons
    perStratum := m.perStratum }

/-- Compute the billable uplift of window-closed observations. -/
def computeBillableUplift (M : MathOps K) (observations : List (UpliftObservation K))
    (config : SequentialUpliftConfig K) (priorBilledDollars : ℚ) :
    Except String (BillableUpliftResult K) :=
  match configError M config with
  | some message => .error message
  | none => .ok (settle (measure M observations config) config.feeRate priorBilledDollars)

theorem computeBillableUplift_ok {M : MathOps K} {observations : List (UpliftObservation K)}
    {config : SequentialUpliftConfig K} {priorBilledDollars : ℚ} {r : BillableUpliftResult K} :
    computeBillableUplift M observations config priorBilledDollars = .ok r ↔
      configError M config = none ∧
        settle (measure M observations config) config.feeRate priorBilledDollars = r := by
  rw [computeBillableUplift]
  cases configError M config <;> simp

/-- The lower bound is floored at zero. -/
theorem lowerDollars_nonneg [IsStrictOrderedRing K] (M : MathOps K)
    (observations : List (UpliftObservation K)) (config : SequentialUpliftConfig K) :
    0 ≤ (measure M observations config).lowerDollars :=
  Js.round_nonneg (mul_nonneg (le_max_left _ _) (Nat.cast_nonneg _))

end

end AX10M
