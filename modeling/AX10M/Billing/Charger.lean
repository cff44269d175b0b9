/-
  The collection of a fee from a merchant on auto-pay (`billing/stripe-billing-charger.ts`).
-/
import AX10M.Billing.Invoice
import AX10M.Billing.Run

namespace AX10M

open Js

/-- A request to the platform account's processor. -/
structure StripePost where
  path : String
  params : Record
  idempotencyKey : String

/-- What the processor answers. -/
inductive StripeAnswer where
  | intent (status id : Option String) (idempotentReplay : Bool)
  | cardError (declineCode code : Option String) (message : String)
  | stripeError (type : Option String) (message : String)
  /-- no answer -/
  | error (message : String)

/-- A charge that is not sent. -/
def skippedCharge (reason : String) : BillingChargeReceipt :=
  { status := .skipped, provider := "stripe", reason := some reason }

/-- The request of a charge, or the receipt of one that is skipped. -/
def chargePost (account : Option BillingAccount) (req : BillingChargeRequest) :
    Except BillingChargeReceipt StripePost :=
  match account with
  | none => .error (skippedCharge ("no billing account for merchant " ++ req.merchantId))
  | some account =>
    if account.payerTrack ≠ .autoPay then
      .error (skippedCharge
        "merchant is on the invoice track (not auto-pay) — invoice it instead")
    else
      match account.paymentMethodRef.filter (· ≠ ""), account.customerRef.filter (· ≠ "") with
      | some method, some customer =>
        .ok {
          path := "/payment_intents"
          params := [("amount", .num req.amountMinor), ("currency", .str req.currency.toLower),
            ("customer", .str customer), ("payment_method", .str method),
            ("off_session", .bool true), ("confirm", .bool true),
            ("description", .str ("AX10M recovery uplift fee — " ++ req.period)),
            ("metadata[merchantId]", .str req.merchantId), ("metadata[period]", .str req.period),
            ("metadata[statementHash]", .str req.statementHash)]
          idempotencyKey := "ax10m-bill-" ++ req.merchantId ++ "-" ++ req.period ++ "-" ++
            String.ofList (req.statementHash.toList.take 24) }
      | _, _ => .error (skippedCharge
          "no Stripe customer + payment method on file (SetupIntent not completed)")

/-- The receipt of an answered charge. -/
def chargeReceipt : StripeAnswer → BillingChargeReceipt
  | .intent status id replay =>
    if status = some "succeeded" then
      { status := .charged, provider := "stripe", reference := id
        reason := if replay then some "idempotent replay" else none }
    else
      { status := .failed, provider := "stripe", reference := id
        reason := some ("payment intent not succeeded (status=" ++
          (status.filter (· ≠ "")).getD "unknown" ++ ")") }
  | .cardError declineCode code message =>
    { status := .failed, provider := "stripe"
      reason := some ("card declined: " ++ (declineCode.or code).getD message) }
  | .stripeError type message =>
    { status := .failed, provider := "stripe"
      reason := some ("stripe " ++ type.getD "error" ++ ": " ++ message) }
  | .error message => { status := .failed, provider := "stripe", reason := some message }

/-- `StripeBillingCharger.charge`. -/
def stripeCharge (accountFor : String → Option BillingAccount) (answer : StripePost → StripeAnswer)
    (req : BillingChargeRequest) : BillingChargeReceipt :=
  match chargePost (accountFor req.merchantId) req with
  | .error receipt => receipt
  | .ok post => chargeReceipt (answer post)

end AX10M
