/-
  Billing observations, reconstructed from the ledger (`billing/observations.ts`).

  A period is the cohort of the invoices assigned in a month; the outcome of an
  invoice is its net recovered amount as of now.
-/
import AX10M.Attribution.Ledger
import AX10M.Attribution.Sequential
import AX10M.Js.Date
import Mathlib.Data.List.Induction

namespace AX10M

open Js

/-- A month that is billed: from `startMs`, to before `endMs`. -/
structure BillingPeriod where
  label : String
  startMs : ℤ
  endMs : ℤ
  deriving DecidableEq

/-- The calendar month before an instant. -/
def monthBefore (now : ℤ) : BillingPeriod :=
  let y := Date.year now
  let m := Date.month now
  let start := Date.utc y (m - 1) 1
  ⟨String.ofList ((Date.toISOString start).toList.take 7), start, Date.utc y m 1⟩

/-- The previous calendar month, what a monthly run bills; a date that is none has no text. -/
def previousMonth (nowIso : String) : Except String BillingPeriod :=
  match Date.parse nowIso with
  | some now => .ok (monthBefore now)
  | none => .error "Invalid time value"

/-- The distinct merchants of a ledger. -/
def merchantsInLedger (entries : List LedgerEntry) : List String :=
  distinct (entries.map LedgerEntry.merchantId)

/-- What an entry adds to the net of its invoice. -/
def netChange (e : LedgerEntry) : Option ℚ :=
  match e.type with
  | .caseRecovered => some e.amount
  | .caseReversed => some (-e.amount)
  | .caseReversalReverted => some e.amount
  | _ => none

/-- The net recovered amount of each invoice of a merchant. -/
def netByInvoice (entries : List LedgerEntry) (merchantId : String) : Map String ℚ :=
  entries.foldl (fun net e =>
    if e.merchantId ≠ merchantId then net
    else
      match str (e.field "invoiceId"), netChange e with
      | some invoiceId, some d => net.add invoiceId d
      | _, _ => net) Map.empty

/-- The arm an assignment records. -/
def bucketOf (e : LedgerEntry) : Option Bucket :=
  match str (e.field "bucket") with
  | some "treatment" => some .treatment
  | some "control" => some .control
  | _ => none

/-- The entry is an assignment of the merchant in the period. -/
def assignedIn (e : LedgerEntry) (merchantId : String) (period : BillingPeriod) : Bool :=
  e.type = .holdoutAssigned && e.merchantId = merchantId &&
    match Date.parse e.occurredAt with
    | some t => decide (period.startMs ≤ t ∧ t < period.endMs)
    | none => false

/-- The observation an assignment gives. -/
def observationOf (net : Map String ℚ) (e : LedgerEntry) : Option (UpliftObservation ℚ) := do
  let invoiceId ← str (e.field "invoiceId")
  let arm ← bucketOf e
  let outcome := (net.get invoiceId).getD 0
  return {
    arm
    cluster := (str (e.field "customerId")).getD invoiceId
    stratum := (str (e.field "stratumKey")).getD "default"
    outcome
    covariate := e.amount
    recovered := outcome > 0 }

/-- The cohort of a merchant and a period. -/
def reconstructObservations (entries : List LedgerEntry) (merchantId : String)
    (period : BillingPeriod) : List (UpliftObservation ℚ) :=
  (entries.filter fun e => assignedIn e merchantId period).filterMap
    (observationOf (netByInvoice entries merchantId))

/-- The net of an invoice is the sum of what its entries add. -/
theorem netByInvoice_get (entries : List LedgerEntry) (merchantId invoiceId : String) :
    ((netByInvoice entries merchantId).get invoiceId).getD 0 =
      ((entries.filter fun e => e.merchantId = merchantId ∧
        str (e.field "invoiceId") = some invoiceId).filterMap netChange).sum := by
  induction entries using List.reverseRecOn with
  | nil => rfl
  | append_singleton l e ih =>
    simp only [netByInvoice, List.foldl_append, List.foldl_cons, List.foldl_nil,
      List.filter_append, List.filterMap_append, List.sum_append] at ih ⊢
    rw [← ih]
    by_cases hm : e.merchantId = merchantId
    · cases hs : str (e.field "invoiceId") with
      | none => simp [hm, hs]
      | some j =>
        cases hc : netChange e with
        | none => by_cases hj : j = invoiceId <;> simp [hm, hs, hc, hj]
        | some d =>
          by_cases hj : invoiceId = j
          · simp [hm, hs, hc, hj, Map.getD_add]
          · simp [hm, hs, Map.getD_add, hj, Ne.symm hj]
    · simp [hm]

end AX10M
