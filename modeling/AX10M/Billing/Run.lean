/-
  The billing run (`billing/billing-run.ts`): the statements of the previous month for
  every merchant of the ledger, each recorded as an `uplift.statement` entry.
-/
import AX10M.Billing.Statement

namespace AX10M

open Js

inductive ChargeStatus where
  | charged | skipped | failed
  deriving DecidableEq, Repr

/-- A request to collect a fee. -/
structure BillingChargeRequest where
  merchantId : String
  period : String
  amountMinor : ℤ
  currency : String
  statementHash : String

structure BillingChargeReceipt where
  status : ChargeStatus
  provider : String
  reference : Option String := none
  reason : Option String := none

/-- `NoopBillingCharger`. -/
def noopBillingCharger (_ : BillingChargeRequest) : BillingChargeReceipt where
  status := .skipped
  provider := "noop"
  reason := some "no billing provider wired — statement recorded, not charged"

/-- What a run is given, the ledger apart. -/
structure BillingRunOptions (K : Type) where
  ctx : StatementContext K
  nowIso : String
  live : Bool := false
  charger : BillingChargeRequest → BillingChargeReceipt := noopBillingCharger
  onboardedAt : String → Option String := fun _ => none
  holdoutSchedule : HoldoutScheduleConfig := defaultHoldoutSchedule

/-- The result of a run for a merchant. -/
structure BillingMerchantResult (K : Type) where
  merchantId : String
  period : BillingPeriod
  statement : SignedBillableStatement K
  economics : HoldoutEconomics
  charge : Option BillingChargeReceipt

/-- The onboarding date of a merchant: the given one, else its earliest entry. -/
def onboardedAtFor (merchantId : String) (entries : List LedgerEntry)
    (explicit : String → Option String) : Option String :=
  match explicit merchantId with
  | some given => if given = "" then earliest else some given
  | none => earliest
where
  earliest : Option String :=
    (entries.foldl (fun (acc : Option (ℤ × String)) e =>
      if e.merchantId ≠ merchantId then acc
      else
        match Date.parse e.occurredAt with
        | some t => if ∀ p ∈ acc, t < p.1 then some (t, e.occurredAt) else acc
        | none => acc) none).map Prod.snd

section

variable {K : Type} [Field K] [LinearOrder K] [FloorRing K]

/-- The entry a statement is recorded as. -/
def statementEntry (nowIso : String) (r : BillingMerchantResult K) : LedgerEntry where
  merchantId := r.merchantId
  type := .upliftStatement
  occurredAt := nowIso
  detail :=
    [("period", .str r.period.label), ("currency", .str r.statement.currency),
      ("feeMinor", .num r.statement.result.fee),
      ("lowerDollarsCum", .num r.statement.result.lowerDollarsCum),
      ("billableIncrement", .num r.statement.result.billableIncrement),
      ("billable", .bool r.statement.result.billable),
      ("gateReasons", .arr (r.statement.result.gateReasons.map .str)),
      ("treatedInvoices", .num r.statement.result.treatedInvoices),
      ("holdoutFraction", .num r.economics.holdoutFraction),
      ("estimatedHoldoutCost", .num r.economics.estimatedHoldoutCostMinor),
      ("holdoutCredit", .num r.economics.holdoutCreditMinor),
      ("netBilled", .num r.economics.netBilledMinor),
      ("statementHash", .str r.statement.statementHash),
      ("signature", .str r.statement.signature),
      ("signingKeyId", .str r.statement.signingKeyId)]

/-- The result of a run for one merchant. -/
def billMerchant (opts : BillingRunOptions K) (entries : List LedgerEntry) (period : BillingPeriod)
    (merchantId : String) : Except String (BillingMerchantResult K) := do
  let signed ← computeMerchantStatement opts.ctx entries merchantId period
  let onboardedAt := onboardedAtFor merchantId entries opts.onboardedAt
  let holdoutFraction := holdoutFractionFor (onboardedAt.getD opts.nowIso) opts.nowIso
    opts.holdoutSchedule
  let econ := computeHoldoutEconomics signed.result.fee signed.result.deltaPer
    signed.result.treatedInvoices holdoutFraction
  let charge := if opts.live && signed.result.billable && econ.netBilledMinor > 0 then
      some (opts.charger ⟨merchantId, period.label, econ.netBilledMinor, signed.currency,
        signed.statementHash⟩)
    else none
  return ⟨merchantId, period, signed, econ, charge⟩

/-- A billing run: a result for each merchant of the ledger. -/
def runBilling (opts : BillingRunOptions K) (entries : List LedgerEntry) :
    Except String (List (BillingMerchantResult K)) := do
  let period ← previousMonth opts.nowIso
  (merchantsInLedger entries).mapM (billMerchant opts entries period)

/-- The ledger after a run; a run that fails has recorded nothing. -/
def ledgerAfterRun (opts : BillingRunOptions K) (entries : List LedgerEntry) : List LedgerEntry :=
  match runBilling opts entries with
  | .ok results => entries ++ results.map (statementEntry opts.nowIso)
  | .error _ => entries

end

end AX10M
