/-
  Training and scoring on snapshots (`training.ts`, `features.ts` and `logistic.ts` of
  `@ax10m/recovery-engine`).

  A snapshot may be any object: what its fields are taken for may be infinite or `NaN`, or throw.
  The exponential and the logarithms are parameters.
-/
import AX10M.Draws.Generator
import AX10M.Js.Number
import AX10M.RecoveryEngine.Auc
import AX10M.RecoveryEngine.Bandit
import AX10M.RecoveryEngine.LedgerSamples
import AX10M.Regression.Descent

namespace AX10M

open Js Draws Regression

/-- `Math.exp`, `Math.log` and `Math.log1p` of finite numbers. -/
structure LogisticMath (K : Type) where
  exp : K → K
  log : K → K
  log1p : K → K

section

variable {K : Type} [Field K] [LinearOrder K] (math : LogisticMath K)

namespace LogisticMath

def expOf : Double K → Double K
  | .fin x => .fin (math.exp x)
  | .inf s => if s then 0 else .inf false
  | .nan => .nan

def logOf : Double K → Double K
  | .fin x => if 0 < x then .fin (math.log x) else if x = 0 then .inf true else .nan
  | .inf s => if s then .nan else .inf false
  | .nan => .nan

/-- `Math.log1p` of a number that is not negative. -/
def log1pOf : Double K → Double K
  | .fin x => .fin (math.log1p x)
  | .inf s => if s then .nan else .inf false
  | .nan => .nan

end LogisticMath

/-! ## Snapshots as vectors -/

/-- What the fields of a snapshot are taken for. -/
structure SnapshotNumbers where
  amountMinor : Double ℚ
  customerTenureDays : Double ℚ
  priorRecoveryRate : Double ℚ
  attemptNumber : Double ℚ
  daysSinceFirstFail : Double ℚ
  issuerApprovalPrior : Double ℚ

/-- `v ?? 0.5`. -/
def orHalf : Option Json → Option Json
  | none | some .null => some (.num (1 / 2))
  | v => v

def readNumbers (f : Json) : Except JsError SnapshotNumbers := do
  let amountMinor ← toNumber (snapshotField f "amountMinor")
  let customerTenureDays ← toNumber (snapshotField f "customerTenureDays")
  let priorRecoveryRate ← toNumber (snapshotField f "priorRecoveryRate")
  let attemptNumber ← toNumber (snapshotField f "attemptNumber")
  let daysSinceFirstFail ← toNumber (snapshotField f "daysSinceFirstFail")
  let issuerApprovalPrior ← toNumber (orHalf (snapshotField f "issuerApprovalPrior"))
  pure ⟨amountMinor, customerTenureDays, priorRecoveryRate, attemptNumber, daysSinceFirstFail,
    issuerApprovalPrior⟩

/-- The value is a text. -/
def isText (v : Option Json) (s : String) : Bool :=
  match v with
  | some (.str t) => t = s
  | _ => false

/-- A one where a text is found in an order, and zeros. -/
def oneHotText (order : List String) (v : Option Json) : List (Double K) :=
  order.map fun s => if isText v s then 1 else 0

/-- A number that is cut off below zero, in units, and at a cap. -/
def capped (v : Double ℚ) (unit cap : ℚ) : Double ℚ := .min (.max 0 v / .fin unit) (.fin cap)

/-- `clamp01`. -/
def clampNumber (v : Double ℚ) : Double ℚ :=
  if v.lt 0 then 0 else if Double.lt 1 v then 1 else v

/-- A number of the snapshot in the field of the model. -/
def toField (v : Double ℚ) : Double K := v.map fun x : ℚ => (x : K)

/-- `Math.log1p(Math.max(0, f.amountMinor)) / 12`. -/
def amountEntry (n : SnapshotNumbers) : Double K :=
  math.log1pOf (toField (.max 0 n.amountMinor)) / .fin (12 : ℕ)

/-- The entries after the regions. -/
def historyEntries (n : SnapshotNumbers) : List (Double K) :=
  [toField (capped n.customerTenureDays 365 3), toField (clampNumber n.priorRecoveryRate),
    toField (.min (.max 0 (n.attemptNumber - 1)) (.fin 6) / .fin 6),
    toField (capped n.daysSinceFirstFail 30 2), toField (clampNumber n.issuerApprovalPrior)]

/-- The entries of a feature vector. -/
def snapshotEntries (f : Json) (n : SnapshotNumbers) : List (Double K) :=
  oneHotText (declineOrder.map DeclineCode.text) (snapshotField f "declineCode") ++
    (amountEntry math n ::
      (oneHotText (regionOrder.map IssuerRegion.text) (snapshotField f "issuerRegion") ++
        (historyEntries n ++
          oneHotText (cardTypeOrder.map CardProductType.text) (snapshotField f "cardType"))))

theorem length_snapshotEntries (f : Json) (n : SnapshotNumbers) :
    (snapshotEntries math f n).length = featureDim := by
  simp [snapshotEntries, oneHotText, historyEntries, featureDim]
  omega

/-- The feature vector of a snapshot (`encodeFeatures`). -/
def encodeSnapshot (f : Json) : Except JsError (Vector (Double K) featureDim) :=
  (readNumbers f).map fun n =>
    ⟨(snapshotEntries math f n).toArray, by simpa using length_snapshotEntries math f n⟩

/-! ## The logistic model -/

def sigmoid (z : Double K) : Double K :=
  if Double.le 0 z then 1 / (1 + math.expOf (-z)) else math.expOf z / (1 + math.expOf z)

/-- What a fitted model says of its training. -/
structure ModelMeta where
  corpus : String
  nSamples : ℕ
  nPositives : ℕ
  challengerAuc : ℚ
  championAuc : ℚ
  promoted : Bool

/-- Weights in the order of the features, an intercept, and where they are from. -/
structure RecoverabilityWeights (R : Type) where
  w : List R
  b : R
  provenance : Option ModelMeta := none

/-- A model with a weight for each feature (`new LogisticRecoverability(weights)`). -/
def logisticRecoverability (weights : RecoverabilityWeights (Double K)) :
    Except JsError (Linear (Double K) featureDim) :=
  if h : weights.w.length = featureDim then .ok ⟨⟨weights.w.toArray, by simpa using h⟩, weights.b⟩
  else .error (.error (s!"LogisticRecoverability: weight vector length {weights.w.length} != " ++
    s!"FEATURE_DIM {featureDim} (feature layout changed — retrain)."))

/-- `clamp01` of a probability, `none` being `NaN`. -/
def clampScore : Double K → Option K
  | .fin x => some (if x < 0 then 0 else if x > 1 then 1 else x)
  | .inf s => some (if s then 0 else 1)
  | .nan => none

/-- The probability that a model gives. -/
def scoreOf (m : Linear (Double K) featureDim) (f : Json) : Except JsError (Option K) :=
  (encodeSnapshot math f).map fun x => clampScore (sigmoid math (m.value x))

/-! ## Training -/

structure TrainOptions where
  iterations : ℕ
  lr : ℚ
  l2 : ℚ
  seed : UInt32

/-- The `i`-th draw of a generator. -/
def drawAt (rng : Rng) (i : ℕ) : ℚ := ((fun rng : Rng => rng.next.2)^[i] rng).next.1

/-- The model before training. -/
def initialModel (seed : UInt32) : Linear (Double K) featureDim :=
  { w := Vector.ofFn fun i => .fin (((drawAt (mulberry32 seed) i - 1 / 2) / 100 : ℚ) : K)
    b := 0 }

/-- A sample as an example of its vector. -/
def toExample (s : TrainingSample) (x : Vector (Double K) featureDim) :
    Example (Double K) featureDim := ⟨x, if s.recovered then 1 else 0, toField s.weight⟩

/-- `1e-12`. -/
def tiny : Double K := .fin (1 / (10 ^ 12 : ℕ))

/-- The cross-entropy of a probability. -/
def crossEntropy (p y : Double K) : Double K :=
  y * math.logOf (p + tiny) + (1 - y) * math.logOf (1 - p + tiny)

/-- The loss of a model, that is recorded for step `iter`, with the weights after it. -/
def recordedLoss (opts : TrainOptions) (es : List (Example (Double K) featureDim))
    (m m' : Linear (Double K) featureDim) : Double K :=
  es.foldl (fun loss e =>
      loss + -e.weight * crossEntropy math (sigmoid math (m.value e.x)) e.y) 0 / totalWeight es +
    .fin (opts.l2 / 2 : ℚ) * m'.w.toList.foldl (fun a c => a + c * c) 0

/-- One iteration of the training loop. -/
def trainIteration (opts : TrainOptions) (es : List (Example (Double K) featureDim))
    (s : Linear (Double K) featureDim × List (Double K)) (iter : ℕ) :
    Linear (Double K) featureDim × List (Double K) :=
  let m := step (sigmoid math) (.fin (opts.lr : K)) (.fin (opts.l2 : K)) es s.1
  (m, if iter % 50 = 0 ∨ iter + 1 = opts.iterations then s.2 ++ [recordedLoss math opts es s.1 m]
    else s.2)

structure TrainResult (K : Type) where
  weights : RecoverabilityWeights (Double K)
  history : List (Double K)

/-- Fit weights by gradient descent. -/
def trainLogisticRecoverability (samples : List TrainingSample) (opts : TrainOptions) :
    Except JsError (TrainResult K) :=
  if samples = [] then .error (.error "trainLogisticRecoverability: no samples")
  else do
    let xs ← samples.mapM fun s => encodeSnapshot math s.features
    let result := (List.range opts.iterations).foldl
      (trainIteration math opts (List.zipWith toExample samples xs)) (initialModel opts.seed, [])
    pure ⟨{ w := result.1.w.toList, b := result.1.b }, result.2⟩

/-! ## Evaluation -/

structure EvalMetrics (K : Type) where
  logLoss : Double K
  auc : ℚ
  brier : Double K
  accuracy : ℚ
  n : ℕ

/-- A run that does not return: it threw, or goes on. -/
inductive Halt where
  | threw (e : JsError)
  | running

/-- A score as a number. -/
def ofScore : Option K → Double K
  | some x => .fin x
  | none => .nan

/-- The label of a prediction as a number. -/
def labelOf (d : Prediction K) : Double K := .fin (d.y : K)

/-- The predictions of a model. -/
def predictions (m : Linear (Double K) featureDim) (samples : List TrainingSample) :
    Except JsError (List (Prediction K)) :=
  samples.mapM fun s => (scoreOf math m s.features).map fun p => ⟨p, if s.recovered then 1 else 0⟩

/-- The prediction is right, at a threshold of a half. -/
def isCorrect (d : Prediction K) : Bool :=
  (if Double.le (.fin (1 / ((2 : ℕ) : K))) (ofScore d.p) then 1 else 0) = d.y

/-- The metrics of predictions. -/
def metricsOf (preds : List (Prediction K)) (auc : ℚ) : EvalMetrics K :=
  let n := if preds.length = 0 then 1 else preds.length
  { logLoss := preds.foldl (fun logLoss d =>
      logLoss + -crossEntropy math (ofScore d.p) (labelOf d)) 0 / .fin ((n : ℕ) : K)
    auc
    brier := preds.foldl (fun brier d =>
      brier + (ofScore d.p - labelOf d) * (ofScore d.p - labelOf d)) 0 / .fin ((n : ℕ) : K)
    accuracy := (preds.countP isCorrect : ℚ) / n
    n := preds.length }

/-- Evaluate a model on labelled samples. -/
def evaluateModel (fuel : ℕ) (m : Linear (Double K) featureDim) (samples : List TrainingSample) :
    Except Halt (EvalMetrics K) :=
  match predictions math m samples with
  | .error e => .error (.threw e)
  | .ok preds =>
    match auc fuel preds with
    | none => .error .running
    | some a => .ok (metricsOf math preds a)

end

/-! ## The split -/

/-- The places of the samples that are held out. -/
def testPlaces (n : ℕ) (testFraction : ℚ) (seed : UInt32) : List ℕ :=
  (shuffle (List.range n) (mulberry32 seed)).take (Js.round (n * testFraction)).toNat

/-- Deterministic split into samples to train on and samples to test on. -/
def splitTrainTest (samples : List TrainingSample) (testFraction : ℚ) (seed : UInt32) :
    List TrainingSample × List TrainingSample :=
  (Draws.others (testPlaces samples.length testFraction seed) samples,
    Draws.chosen (testPlaces samples.length testFraction seed) samples)

end AX10M
