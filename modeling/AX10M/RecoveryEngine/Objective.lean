/-
  What a decision is made of (`objective.ts`, `timing.ts`, and the choice of a method in
  `contextual-bandit.ts` of `@ax10m/recovery-engine`): the net value of an action, the time of a
  retry and the method it charges.
-/
import AX10M.RecoveryEngine
import AX10M.Js.Number
import Mathlib.Data.Rat.Floor

namespace AX10M

open Js

/-! ## Net values -/

/-- The defaults (`DEFAULT_COST_MODEL`). -/
def defaultCostModel : CostModel where
  attemptFeeMinor := AX10M.attemptFeeMinor
  commsCostMinor := 5
  fineExposureMinor := 2500
  retentionMultiplier := 8 / 5

/-- The fine to expect: none below a part of the cap, 60 % if it is not given, the whole exposure
    from the cap on, and in proportion between them. -/
def expectedFineCostMinor (cmp : Option ComplianceContext) (cost : CostModel) : ℤ :=
  match cmp.bind fun c => c.networkCap.map fun cap => (c, cap) with
  | none => 0
  | some (c, cap) =>
    if cap ≤ 0 then 0 else
      let ratio : ℚ := (max 0 c.attemptsInNetworkWindow : ℤ) / (cap : ℤ)
      let start := c.fineRampStart.getD (3 / 5)
      let pFine := if ratio ≥ 1 then 1 else if ratio ≤ start then 0
        else (ratio - start) / (1 - start)
      Js.round (pFine * cost.fineExposureMinor)

/-- Below this recoverability a retry is not considered. -/
def minRecoverabilityToRetry : ℚ := 1 / 25

/-- The thresholds that are used without a configuration (`DEFAULT_POLICY_CONFIG`). -/
def defaultPolicyConfig : PolicyConfig where
  minRecoverabilityToRetry := AX10M.minRecoverabilityToRetry
  attemptCostMinor := 15
  retentionMultiplier := 8 / 5

structure ActionCost where
  feeMinor : ℚ
  fineCostMinor : ℤ
  totalMinor : ℚ
  deriving DecidableEq

structure ActionValue where
  netValueMinor : ℚ
  grossMinor : ℤ
  cost : ActionCost

/-- The value of recovering an amount with a given probability. -/
def grossMinor (recoverability amountMinor : ℚ) (cost : CostModel) : ℤ :=
  Js.round (max 0 recoverability * amountMinor * cost.retentionMultiplier)

/-- The net value of charging the same card again. -/
def retryNetValue (recoverability amountMinor : ℚ) (cost : CostModel)
    (compliance : Option ComplianceContext) : ActionValue :=
  let gross := grossMinor recoverability amountMinor cost
  let fine := expectedFineCostMinor compliance cost
  let total := cost.attemptFeeMinor + fine
  ⟨gross - total, gross, ⟨cost.attemptFeeMinor, fine, total⟩⟩

/-- The net value of asking for another card. -/
def commsNetValue (recoverability amountMinor : ℚ) (cost : CostModel) : ActionValue :=
  let gross := grossMinor recoverability amountMinor cost
  ⟨gross - cost.commsCostMinor, gross, ⟨cost.commsCostMinor, 0, cost.commsCostMinor⟩⟩

/-! ## The time of a retry -/

/-- Milliseconds in an hour. -/
def msPerHour : ℤ := 3600000

structure RetryTiming where
  retryAt : String
  rationale : String

/-- `Date.UTC(y, m, d, h)`, which takes a year below 100 for one of the twentieth century. -/
def utcHours (y m d h : ℤ) : ℤ :=
  Date.utc (if 0 ≤ y ∧ y ≤ 99 then 1900 + y else y) m d + h * msPerHour

/-- Noon of the 15th of the month, or of the 1st of the next month from the 15th on. -/
def nextPaydayProxy (from_ : ℤ) : ℤ :=
  let y := Date.year from_
  let m := Date.month from_
  let d := Date.date from_
  if d < 15 then utcHours y m 15 12 else utcHours y (m + 1) 1 12

/-- The instant to charge again at, after a decline, and the reason. -/
def retryInstant (code : DeclineCode) (attemptNumber now : ℤ) : ℤ × String :=
  let attempt := max 1 attemptNumber
  let at_ (ms : ℤ) (rationale : String) : ℤ × String := (now + ms, rationale)
  match code with
  | .issuerUnavailable | .processingError | .tryAgainLater =>
    let hours : ℕ := [2, 6].getD (min (attempt - 1) 2).toNat 24
    at_ (hours * msPerHour)
      s!"Transient issuer error — quick retry in {hours}h (attempt {attempt})."
  | .insufficientFunds =>
    let twoDays := now + 2 * Date.msPerDay
    let payday := nextPaydayProxy now
    let pick := if attempt = 1 ∧ twoDays < payday then twoDays else payday
    let day := String.ofList ((Date.toISOString pick).toList.take 10)
    (pick, s!"Insufficient funds — timed to likely payday ({day}); " ++
      "funds most likely available then.")
  | .velocityLimitExceeded =>
    at_ (24 * msPerHour) "Velocity/limit exceeded — wait out the issuer window (24h)."
  | .authenticationRequired =>
    at_ (12 * msPerHour) "Authentication required — retry after a comms nudge (12h)."
  | _ =>
    let days : ℕ := [1, 3, 7].getD (min (attempt - 1) 3).toNat 14
    at_ (days * Date.msPerDay)
      s!"Generic decline — escalating backoff, retry in {days}d (attempt {attempt})."

/-- When to charge again; `none` where the time is not one and the text of a date throws. -/
def optimalRetryTime (f : RecoveryFeatures) (nowIso : String) : Option RetryTiming :=
  (Date.parse nowIso).map fun now =>
    let (retryAt, rationale) := retryInstant f.declineCode f.attemptNumber now
    ⟨Date.toISOString retryAt, rationale⟩

/-! ## The method -/

/-- The method to charge: from the third attempt on one that is not the default, else a card that
    was updated, else the default. -/
def selectMethod (features : RecoveryFeatures) (methods : List AvailableMethod) :
    Option AvailableMethod :=
  let alternate := if features.attemptNumber ≥ 3 then methods.find? fun m => !m.isDefault else none
  alternate.or ((methods.find? fun m => m.autoUpdated.getD false).or
    ((methods.find? AvailableMethod.isDefault).or methods.head?))

/-- What is known of a first failure, for lack of funds. -/
def firstFailure : RecoveryFeatures :=
  { declineCode := .insufficientFunds, amountMinor := 0, currency := "USD", issuerRegion := .na,
    cardType := .credit, customerTenureDays := 365, priorRecoveryRate := 2 / 5, attemptNumber := 1,
    daysSinceFirstFail := 0, issuerApprovalPrior := 1 / 2 }

end AX10M
