/-
  The onboarding lifecycle (`@ax10m/onboarding`, `lifecycle.ts` and `projection.ts`).

  A connected merchant is first in shadow, where its baseline is measured and the uplift
  is projected from it; the window, the number of failures and the projection decide
  whether it can be activated.
-/
import AX10M.Guardrail
import AX10M.Js.Date
import AX10M.Js.Map
import AX10M.Js.Number
import Mathlib.Data.Rat.Floor

namespace AX10M

open Js

inductive OnboardingStatus where
  | connecting | shadow | active | paused
  deriving DecidableEq, Repr

structure OnboardingState where
  merchantId : String
  processor : String
  status : OnboardingStatus
  connectedAt : String
  shadowStartedAt : Option String := none
  activatedAt : Option String := none
  /-- the length of the shadow window, in days -/
  shadowWindowDays : ℕ
  webhooksRegistered : Bool
  deriving DecidableEq

structure OnboardingConfig where
  shadowWindowDays : ℕ
  minFailuresToActivate : ℕ

/-- `DEFAULT_ONBOARDING_CONFIG`. -/
def defaultOnboardingConfig : OnboardingConfig := ⟨14, 200⟩

/-! ## The projection -/

/-- A failed invoice observed in shadow mode. -/
structure ShadowObservation where
  declineCode : DeclineCode
  amount : MinorUnits
  baselineRecovered : Bool
  deriving DecidableEq

/-- The prior that a missed invoice is recovered, for the codes that have one of their own. -/
def captureOfRemainingByCode : DeclineCode → Option ℚ
  | .expiredCard => some (30 / 100)
  | .insufficientFunds => some (22 / 100)
  | .issuerUnavailable => some (28 / 100)
  | .processingError => some (25 / 100)
  | .tryAgainLater => some (25 / 100)
  | .doNotHonor => some (12 / 100)
  | .authenticationRequired => some (10 / 100)
  | _ => none

/-- The prior of a family. -/
def captureOfRemainingByFamily : DeclineFamily → ℚ
  | .soft => 18 / 100
  | .gray => 10 / 100
  | .hard => 2 / 100

/-- The prior probability to recover an invoice that the baseline missed. -/
def captureOfRemaining (code : DeclineCode) : ℚ :=
  (captureOfRemainingByCode code).getD (captureOfRemainingByFamily (familyOf code))

structure ProjectionConfig where
  feeRate : ℚ
  currency : String
  conservativeHaircut : ℚ
  monthlyDays : ℚ

/-- `DEFAULT_PROJECTION_CONFIG`. -/
def defaultProjectionConfig : ProjectionConfig := ⟨12 / 100, "USD", 60 / 100, 30⟩

structure FamilyProjection where
  family : DeclineFamily
  failures : ℕ
  baselineRecovered : ℕ
  missedValue : ℤ
  captureRate : ℚ
  projectedValue : ℤ

structure ShadowProjection where
  observedFailures : ℕ
  baselineRecovered : ℕ
  baselineRecoveryRate : ℚ
  missedValue : Money
  projectedIncrementalRecoveries : ℤ
  projectedWindowValue : Money
  projectedMonthlyValue : Money
  projectedMonthlyConservative : Money
  projectedMonthlyFee : Money
  byFamily : List FamilyProjection

/-- What is added up of observations. -/
structure ShadowTotals where
  failures : ℕ := 0
  baselineRecovered : ℕ := 0
  missedValue : ℚ := 0
  projectedValue : ℚ := 0
  projectedRecoveries : ℚ := 0

/-- Add an observation; what the baseline recovered is not projected again. -/
def ShadowTotals.observe (t : ShadowTotals) (o : ShadowObservation) : ShadowTotals :=
  if o.baselineRecovered then
    { t with failures := t.failures + 1, baselineRecovered := t.baselineRecovered + 1 }
  else
    let capture := captureOfRemaining o.declineCode
    { t with
      failures := t.failures + 1
      missedValue := t.missedValue + o.amount
      projectedValue := t.projectedValue + o.amount * capture
      projectedRecoveries := t.projectedRecoveries + capture }

/-- The line of a family. -/
def familyProjection (family : DeclineFamily) (f : ShadowTotals) : FamilyProjection where
  family
  failures := f.failures
  baselineRecovered := f.baselineRecovered
  missedValue := Js.round f.missedValue
  captureRate := if f.missedValue > 0 then f.projectedValue / f.missedValue else 0
  projectedValue := Js.round f.projectedValue

/-- Project the uplift from the observations of some days. -/
def projectShadow (observations : List ShadowObservation) (elapsedDays : NumOrNaN)
    (config : ProjectionConfig := defaultProjectionConfig) : ShadowProjection :=
  let money (amount : ℚ) : Money := ⟨Js.round amount, config.currency⟩
  let total := observations.foldl ShadowTotals.observe {}
  let families : Map DeclineFamily ShadowTotals := observations.foldl (fun families o =>
    let family := familyOf o.declineCode
    families.set family (((families.get family).getD {}).observe o)) Map.empty
  let scale := match elapsedDays with
    | some days => if days > 0 then config.monthlyDays / days else 1
    | none => 1
  let projectedMonthly := total.projectedValue * scale
  { observedFailures := observations.length
    baselineRecovered := total.baselineRecovered
    baselineRecoveryRate :=
      if observations.length > 0 then total.baselineRecovered / observations.length else 0
    missedValue := money total.missedValue
    projectedIncrementalRecoveries := Js.round total.projectedRecoveries
    projectedWindowValue := money total.projectedValue
    projectedMonthlyValue := money projectedMonthly
    projectedMonthlyConservative := money (projectedMonthly * config.conservativeHaircut)
    projectedMonthlyFee := money (projectedMonthly * config.feeRate)
    byFamily := (families.entries.map fun p => familyProjection p.1 p.2).mergeSort
      fun a b => b.projectedValue ≤ a.projectedValue }

/-! ## The lifecycle -/

/-- Begin onboarding: in shadow, if the webhooks are registered. -/
def beginOnboarding (merchantId processor now : String) (registered : Bool := true)
    (config : OnboardingConfig := defaultOnboardingConfig) : OnboardingState where
  merchantId
  processor
  status := if registered then .shadow else .connecting
  connectedAt := now
  shadowStartedAt := if registered then some now else none
  shadowWindowDays := config.shadowWindowDays
  webhooksRegistered := registered

structure ShadowProgress where
  elapsedDays : NumOrNaN
  remainingDays : NumOrNaN
  windowComplete : Bool
  pctComplete : NumOrNaN

/-- The days from one instant to another, not less than none. -/
def OnboardingState.daysBetween (fromIso toIso : String) : NumOrNaN :=
  match Date.parse fromIso, Date.parse toIso with
  | some a, some b => some (max 0 (((b - a : ℤ) : ℚ) / Date.msPerDay))
  | _, _ => none

/-- The progress of the shadow window. -/
def shadowProgress (state : OnboardingState) (now : String) : ShadowProgress :=
  match state.shadowStartedAt with
  | none | some "" => ⟨some 0, some state.shadowWindowDays, false, some 0⟩
  | some start =>
    let elapsed := OnboardingState.daysBetween start now
    { elapsedDays := elapsed
      remainingDays := elapsed.map fun days => max 0 (state.shadowWindowDays - days)
      windowComplete := elapsed.any fun days : ℚ => days ≥ state.shadowWindowDays
      pctComplete :=
        if state.shadowWindowDays > 0 then
          elapsed.map fun days => min 1 (days / state.shadowWindowDays)
        else some 1 }

structure Readiness where
  ready : Bool
  reasons : List String

/-- A number of days with one decimal (`toFixed(1)`). -/
def daysText : NumOrNaN → String
  | some days =>
    let n := (Js.round (days * 10)).toNat
    s!"{n / 10}.{n % 10}"
  | none => "NaN"

/-- Whether the merchant can be activated, and why not. -/
def readiness (state : OnboardingState) (projection : ShadowProjection) (progress : ShadowProgress)
    (config : OnboardingConfig := defaultOnboardingConfig) : Readiness :=
  if state.status = .active then ⟨false, ["already active"]⟩
  else
    let reasons :=
      (if state.status = .paused then ["onboarding paused"] else []) ++
      (if !progress.windowComplete then
        [s!"shadow window not complete ({daysText progress.elapsedDays}/{state.shadowWindowDays} days)"]
      else []) ++
      (if projection.observedFailures < config.minFailuresToActivate then
        [s!"insufficient failures observed ({projection.observedFailures}/{config.minFailuresToActivate})"]
      else []) ++
      (if projection.projectedMonthlyValue.amount ≤ 0 then ["no positive projected uplift"] else [])
    ⟨reasons.isEmpty, reasons⟩

/-- Flip to active, if ready. -/
def activate (state : OnboardingState) (readiness : Readiness) (now : String)
    (force : Bool := false) : Except String OnboardingState :=
  if state.status = .active then .ok state
  else if !readiness.ready && !force then
    .error ("cannot activate: " ++ "; ".intercalate readiness.reasons)
  else .ok { state with status := .active, activatedAt := some now }

/-- An active merchant has been active before, or the gates were passed. -/
theorem activate_eq_ok {state state' : OnboardingState} {r : Readiness} {now : String}
    (h : activate state r now = .ok state') :
    state'.status = .active ∧ (state.status = .active ∨ r.ready = true) := by
  unfold activate at h
  split_ifs at h with ha hr
  · obtain rfl := Except.ok.inj h
    exact ⟨ha, .inl ha⟩
  · obtain rfl := Except.ok.inj h
    refine ⟨rfl, .inr ?_⟩
    simpa using hr

end AX10M
