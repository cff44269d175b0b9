/-
  The Stripe adapter: webhook events, and the canonical events it makes of them; a dispute refers
  to a charge, whose invoice is looked up (`stripe/adapter.ts`).
-/
import AX10M.Poal.Ingress

namespace AX10M

open Js

structure StripeRefund where
  amount : Option ℚ := none
  reason : Option String := none

structure StripeBillingDetails where
  email : Option String := none
  phone : Option String := none

/-- The object of an event: an invoice, a charge, or a dispute, whose own id is not read. -/
structure StripeObject where
  id : String := ""
  customer : Option String := none
  subscription : Option String := none
  amountDue : Option ℚ := none
  amountRemaining : Option ℚ := none
  total : Option ℚ := none
  amount : Option ℚ := none
  currency : Option String := none
  status : Option String := none
  created : Option ℤ := none
  customerEmail : Option String := none
  customerPhone : Option String := none
  invoice : Option String := none
  declineCode : Option String := none
  failureCode : Option String := none
  outcomeReason : Option String := none
  billingDetails : StripeBillingDetails := {}
  receiptEmail : Option String := none
  amountRefunded : Option ℚ := none
  refunds : List StripeRefund := []
  charge : Option String := none
  reason : Option String := none

structure StripeEvent where
  id : Option String := none
  type : Option String := none
  created : Option ℤ := none
  object : StripeObject := {}

/-- What the look-up of a charge is answered: its invoice, if it has one, or an error. -/
abbrev StripeLookup := String → Except String (Option String)

/-- The codes of decline codes. -/
def stripeDeclineMap : List (String × DeclineCode) :=
  [("insufficient_funds", .insufficientFunds), ("issuer_not_available", .issuerUnavailable),
    ("processing_error", .processingError), ("card_velocity_exceeded", .velocityLimitExceeded),
    ("authentication_required", .authenticationRequired), ("try_again_later", .tryAgainLater),
    ("reenter_transaction", .tryAgainLater), ("lost_card", .lostCard),
    ("stolen_card", .stolenCard), ("closed_account", .closedAccount),
    ("invalid_account", .invalidCard), ("invalid_number", .invalidCard),
    ("pickup_card", .pickupCard), ("card_not_supported", .cardNotSupported),
    ("revocation_of_authorization", .revocationOfAuthorization), ("do_not_honor", .doNotHonor),
    ("fraudulent", .fraudulent), ("merchant_blacklist", .fraudulent),
    ("expired_card", .expiredCard)]

/-- The code of a decline code. -/
def mapStripeDeclineCode (raw : Option String) : DeclineCode :=
  match truthy raw with
  | none => .unknown
  | some raw => codeFrom stripeDeclineMap raw

/-- The time of a number of seconds, that of the epoch if there is none. -/
def isoFromEpoch (sec : Option ℤ) : String := Date.toISOString ((sec.map (· * 1000)).getD 0)

def mapInvoiceStatus (status : Option String) : InvoiceStatus :=
  match status with
  | some "paid" => .paid
  | some "void" => .void
  | some "uncollectible" => .uncollectible
  | _ => .open

/-- The currency of an object. -/
def StripeObject.currencyCode (obj : StripeObject) : String := (obj.currency.getD "usd").toUpper

/-- The amount of the newest refund of a charge, or of all of them. -/
def StripeObject.refunded (obj : StripeObject) : MinorUnits :=
  ((obj.refunds.head?.bind StripeRefund.amount).or obj.amountRefunded).getD 0

/-- The adapter of a merchant. -/
structure StripeAdapter where
  merchantId : String

namespace StripeAdapter

variable (adapter : StripeAdapter) (obj : StripeObject)

/-- The invoice of an invoice. -/
def mapInvoice (occurredAt : String) (failed : Bool) : Invoice where
  id := invoiceIdOf obj.id
  subscriptionId := prefixed "ax10m_sub_" obj.subscription
  customerId := (prefixed "ax10m_cus_" obj.customer).getD ""
  merchantId := adapter.merchantId
  processorRef := obj.id
  amount := ⟨cents (obj.amountDue.or (obj.amountRemaining.or obj.total)), obj.currencyCode⟩
  status := mapInvoiceStatus obj.status
  firstFailedAt := if failed then some occurredAt else none
  createdAt := isoFromEpoch obj.created

/-- The invoice of a charge, which may be a charge without one. -/
def mapChargeAsInvoice (occurredAt : String) (failed : Bool) : Invoice where
  id := invoiceIdOf (obj.invoice.getD obj.id)
  customerId := (prefixed "ax10m_cus_" obj.customer).getD ""
  merchantId := adapter.merchantId
  processorRef := obj.invoice.getD obj.id
  amount := ⟨cents obj.amount, obj.currencyCode⟩
  status := if failed then .open else .paid
  firstFailedAt := if failed then some occurredAt else none
  createdAt := isoFromEpoch obj.created

def buildDecline (rawCode : Option String) (invoiceId chargeAttemptId occurredAt : String) :
    DeclineEvent where
  id := "ax10m_dec_" ++ invoiceId
  invoiceId := invoiceId
  chargeAttemptId := chargeAttemptId
  code := mapStripeDeclineCode rawCode
  family := familyOf (mapStripeDeclineCode rawCode)
  rawReason := rawCode
  occurredAt := occurredAt

/-- The payload of a failed invoice. -/
def failure (invoice : Invoice) (rawCode txnId email phone : Option String) (occurredAt : String) :
    EventBody :=
  .invoiceFailed {
    invoice := some invoice
    decline := some (buildDecline rawCode invoice.id (attemptIdOf txnId) occurredAt)
    customer := some (customerFromInvoice invoice (contactOverrides email phone)) }

/-- The invoice of a charge; a look-up that fails finds none. -/
def resolveInvoiceRef (lookup : StripeLookup) (chargeId : String) : Option String :=
  match lookup chargeId with
  | .ok invoice => truthy invoice
  | .error _ => none

/-- A reversal, or its undoing, whose object is a dispute. -/
def mapDispute (lookup : StripeLookup) (make : ReversalPayload → EventBody)
    (reason : Option String) : Option EventBody := do
  let amount := obj.amount.getD 0
  let charge ← truthy obj.charge
  if amount ≤ 0 then none
  else
    let invoiceRef ← resolveInvoiceRef lookup charge
    some (make ⟨invoiceIdOf invoiceRef, amount, obj.currencyCode, .chargeback, reason⟩)

/-- The reversal of a charge that was refunded. -/
def mapRefund : Option EventBody := do
  let invoice ← truthy obj.invoice
  if obj.refunded ≤ 0 then none
  else some (.paymentReversed ⟨invoiceIdOf invoice, obj.refunded, obj.currencyCode, .refund,
    obj.refunds.head?.bind StripeRefund.reason⟩)

/-- The body of the canonical event of an event. -/
def body (lookup : StripeLookup) (type : Option String) (occurredAt : String) : Option EventBody :=
  match type with
  | some "invoice.payment_failed" =>
    some (failure (adapter.mapInvoice obj occurredAt true) none none obj.customerEmail
      obj.customerPhone occurredAt)
  | some "invoice.payment_succeeded" | some "invoice.paid" =>
    some (.invoicePaid (some (adapter.mapInvoice obj occurredAt false)))
  | some "charge.failed" =>
    some (failure (adapter.mapChargeAsInvoice obj occurredAt true)
      (obj.declineCode.or (obj.failureCode.or obj.outcomeReason)) (some obj.id)
      (obj.billingDetails.email.or obj.receiptEmail) obj.billingDetails.phone occurredAt)
  | some "charge.succeeded" =>
    some (.invoicePaid (some (adapter.mapChargeAsInvoice obj occurredAt false)))
  | some "charge.refunded" => mapRefund obj
  | some "charge.dispute.created" => mapDispute obj lookup .paymentReversed obj.reason
  | some "charge.dispute.closed" =>
    if obj.status ≠ some "won" then none
    else mapDispute obj lookup .paymentReversalReverted (some "dispute_won")
  | _ => none

/-- The canonical event of an event. -/
def mapEvent (lookup : StripeLookup) (event : StripeEvent) : Option CanonicalEvent :=
  let occurredAt := isoFromEpoch event.created
  (adapter.body event.object lookup event.type occurredAt).map fun body =>
    ⟨"ax10m_evt_" ++ event.id.getD "", adapter.merchantId, event.id.getD "", occurredAt, body⟩

/-- Verify and map a webhook. -/
def ingestWebhook (lookup : StripeLookup) (raw : RawWebhook StripeEvent) : Ingested :=
  if !raw.verified then
    .error "StripeAdapter.ingestWebhook: Stripe-Signature verification failed"
  else
    match raw.body with
    | none => .error "StripeAdapter.ingestWebhook: body is not valid JSON"
    | some event => .ok (adapter.mapEvent lookup event).toList

end StripeAdapter

end AX10M
