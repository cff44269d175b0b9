/-
  The entries of the ledger (`@ax10m/attribution`, `ledger.ts`).

  The ledger is the list of the appended events in order; their sequence numbers
  and the hashes that chain them are functions of this list.
-/
import AX10M.Js.Json

namespace AX10M

open Js

/-- The kinds of events recorded in the ledger. -/
inductive LedgerEventType where
  | holdoutAssigned | recoveryPlanned | chargeAttempted | chargeSucceeded | chargeFailed
  | commsSent | actionSuppressed | caseRecovered | caseReversed | caseReversalReverted
  | caseAbandoned | modelPromoted | upliftStatement
  deriving DecidableEq, Repr

/-- The text of a kind. -/
def LedgerEventType.text : LedgerEventType → String
  | holdoutAssigned => "holdout.assigned" | recoveryPlanned => "recovery.planned"
  | chargeAttempted => "charge.attempted" | chargeSucceeded => "charge.succeeded"
  | chargeFailed => "charge.failed" | commsSent => "comms.sent"
  | actionSuppressed => "action.suppressed" | caseRecovered => "case.recovered"
  | caseReversed => "case.reversed" | caseReversalReverted => "case.reversal_reverted"
  | caseAbandoned => "case.abandoned" | modelPromoted => "model.promoted"
  | upliftStatement => "uplift.statement"

/-- An appended event. -/
structure LedgerEntry where
  merchantId : String
  type : LedgerEventType
  occurredAt : String
  detail : Record

namespace LedgerEntry

/-- The value of a field of the detail. -/
def field (e : LedgerEntry) (f : String) : Option Json := e.detail.get f

/-- The entry is about the invoice (`detail.invoiceId === invoiceId`). -/
def isFor (e : LedgerEntry) (invoiceId : String) : Bool :=
  match e.field "invoiceId" with
  | some (.str s) => decide (s = invoiceId)
  | _ => false

theorem isFor_iff (e : LedgerEntry) (i : String) :
    e.isFor i ↔ e.field "invoiceId" = some (.str i) := by
  unfold isFor
  split
  next s h => simp [h]
  next h => simpa using h i

/-- The amount an entry carries, `0` if it carries none. -/
def amount (e : LedgerEntry) : ℚ := num (e.field "amount")

end LedgerEntry

end AX10M
