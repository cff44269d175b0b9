/-
  The interface of `RecoveryCaseService` to its surroundings: the clock, the
  ledger, the stores in memory and behind ports, the processor, the dispatcher,
  the brain and the dunning transport.

  A service method is a program over these operations (`Effects.Prog`), one
  operation for each `await` or access to state of the source.
-/
import AX10M.Attribution.Ledger
import AX10M.Comms
import AX10M.Effects.Prog
import AX10M.Poal
import AX10M.RecoveryEngine

namespace AX10M

open Js Effects

/-- The case a saga runs (`RecoverySagaInput.attempt`). -/
structure SagaAttempt where
  invoice : Invoice
  method : PaymentMethod
  decline : Option DeclineEvent := none
  /-- the customer's hour -/
  localHour : Option ℤ := none
  minutesSinceLastAttempt : Option ℚ := none
  customer : Option Customer := none
  deriving DecidableEq

/-- What a dispatch hands to the workflow engine (`DurableRecoveryRequest`). -/
structure DurableRecoveryRequest where
  workflowId : String
  attempt : SagaAttempt
  shadow : Bool
  deriving DecidableEq

/-- The window of a credential (`CredentialAttemptWindow`). -/
structure CredentialAttemptWindow where
  attemptsInWindow : ℕ
  minutesSinceLastAttempt : Option NumOrNaN := none

/-- The operations of the service. -/
inductive ServiceOp where
  /-- `new Date()` -/
  | now
  | ledgerAppend (e : LedgerEntry)
  | ledgerAll
  | openedInvoicesHas (invoiceId : String)
  | openedInvoicesAdd (invoiceId : String)
  | attemptsGet (invoiceId : String)
  | attemptsSet (invoiceId : String) (n : ℕ)
  | credentialWindow (key : String) (nowIso : Option String)
  | credentialIncrement (key nowIso : String)
  | attemptCharge (adapter : ProcessorAdapter) (invoice : Invoice) (method : PaymentMethod)
      (key : String)
  /-- a look-up inside `try`: no result when it is rejected -/
  | fetchUpdatedCard (adapter : ProcessorAdapter) (method : PaymentMethod)
  | listPaymentMethods (adapter : ProcessorAdapter) (customer : Customer)
  | dispatch (req : DurableRecoveryRequest)
  | observe (merchantId customerId now : String) (customerCreatedAt : Option String)
  | recordOutcome (merchantId customerId : String) (bin : Option String) (recovered : Bool)
      (now : String)
  | enrich (ctx : EnrichmentContext)
  | decide (features : RecoveryFeatures) (ctx : PolicyContext)
  | update (features : RecoveryFeatures) (decision : RecoveryDecision) (rewardMinor : ℚ)
  | recordFailure (merchantId invoiceId : String) (declineCode : DeclineCode)
      (amount : MinorUnits)
  | recordBaselineRecovery (merchantId invoiceId : String)
  | compose (ctx : DunningContext)
  | sendDedupeHas (key : String)
  | sendDedupeRecord (key : String)
  | send (live : Bool) (message : DunningMessage) (recipient : DunningRecipient)
  | throw (message : String)

/-- The result of an operation. -/
@[reducible] def ServiceOp.Res : ServiceOp → Type
  | .now => ℤ
  | .ledgerAll => List LedgerEntry
  | .openedInvoicesHas _ => Bool
  | .attemptsGet _ => Option ℕ
  | .credentialWindow _ _ => CredentialAttemptWindow
  | .attemptCharge _ _ _ _ => ChargeResult
  | .fetchUpdatedCard _ _ => Option PaymentMethod
  | .listPaymentMethods _ _ => List PaymentMethod
  | .enrich _ => RecoveryFeatures
  | .decide _ _ => RecoveryDecision
  | .compose _ => DunningMessage
  | .sendDedupeHas _ => Bool
  | .send _ _ _ => SendResult
  | .throw _ => Empty
  | _ => Unit

/-- The signature of the service. -/
abbrev ServiceSig : Sig := ⟨ServiceOp, ServiceOp.Res⟩

/-- Asynchronous code of the service. -/
abbrev Async (α : Type) := Prog ServiceSig α

/-- A single operation of the service. -/
abbrev call (o : ServiceOp) : Async o.Res := .op o .pure

/-- `new Date().toISOString()`. -/
def newDateIso : Async String := do return Date.toISOString (← call .now)

/-- Append an entry stamped with the wall clock. -/
def appendNow (merchantId : String) (type : LedgerEventType) (detail : Record) : Async Unit := do
  let occurredAt ← newDateIso
  call (.ledgerAppend ⟨merchantId, type, occurredAt, detail⟩)

end AX10M
