/-
  The GoCardless adapter: webhooks that hold a batch of events, each with the id of a payment that
  is looked up, and the canonical events it makes of them (`adapters/gocardless`).
-/
import AX10M.Poal.Ingress

namespace AX10M

open Js

structure GcPaymentLinks where
  subscription : Option String := none
  customer : Option String := none

structure GcPayment where
  id : String
  amount : Option ℚ := none
  currency : Option String := none
  createdAt : Option String := none
  links : GcPaymentLinks := {}

structure GcDetails where
  cause : Option String := none
  description : Option String := none

structure GcEventLinks where
  payment : Option String := none

structure GcEvent where
  id : Option String := none
  createdAt : Option String := none
  resourceType : Option String := none
  action : Option String := none
  links : GcEventLinks := {}
  details : GcDetails := {}

structure GcCustomer where
  email : Option String := none

/-- The body of a webhook. -/
structure GcBody where
  events : Option (List GcEvent) := none

/-- What the look-ups made for an event are answered: the resource, `none` if the answer holds
    none, or an error. -/
structure GcLookups where
  getPayment : String → Except String (Option GcPayment)
  getCustomer : String → Except String (Option GcCustomer)

/-- The codes of failure causes. -/
def gocardlessCauseMap : List (String × DeclineCode) :=
  [("insufficient_funds", .insufficientFunds), ("refer_to_payer", .insufficientFunds),
    ("bank_account_closed", .closedAccount), ("account_closed", .closedAccount),
    ("bank_account_transferred", .processingError), ("invalid_bank_details", .invalidCard),
    ("invalid_account_number", .invalidCard), ("mandate_cancelled", .revocationOfAuthorization),
    ("mandate_expired", .revocationOfAuthorization),
    ("mandate_suspended", .revocationOfAuthorization),
    ("payment_stopped", .revocationOfAuthorization),
    ("user_cancelled", .revocationOfAuthorization),
    ("customer_approval_denied", .revocationOfAuthorization),
    ("authorisation_disputed", .doNotHonor), ("return_on_odfi_request", .doNotHonor),
    ("debit_authority_limit_breached", .velocityLimitExceeded),
    ("direct_debit_not_enabled", .cardNotSupported)]

/-- The code of a failure cause. -/
def mapGoCardlessCause (cause : Option String) : DeclineCode :=
  match truthy cause with
  | none => .unknown
  | some cause => codeFrom gocardlessCauseMap (trim cause).toLower

/-- The adapter of a merchant. -/
structure GoCardlessAdapter where
  merchantId : String

namespace GoCardlessAdapter

variable (adapter : GoCardlessAdapter) (event : GcEvent) (payment : GcPayment)

/-- The time of an event of a payment. -/
def occurredAt : String := (event.createdAt.or payment.createdAt).getD epochIso

/-- A canonical event for an event of a payment. -/
def envelope (body : EventBody) : CanonicalEvent where
  id := "ax10m_evt_" ++ event.id.getD payment.id
  merchantId := adapter.merchantId
  processorEventId := event.id.getD ""
  occurredAt := occurredAt event payment
  body := body

def mapInvoice (occurredAt : String) (failed : Bool) : Invoice where
  id := invoiceIdOf payment.id
  subscriptionId := prefixed "ax10m_sub_" payment.links.subscription
  customerId := (prefixed "ax10m_cus_" payment.links.customer).getD ""
  merchantId := adapter.merchantId
  processorRef := payment.id
  amount := ⟨cents payment.amount, payment.currency.getD "GBP"⟩
  status := if failed then .open else .paid
  firstFailedAt := if failed then some occurredAt else none
  createdAt := payment.createdAt.getD occurredAt

def buildDecline (invoiceId chargeAttemptId occurredAt : String) : DeclineEvent where
  id := "ax10m_dec_" ++ event.id.getD invoiceId
  invoiceId := invoiceId
  chargeAttemptId := chargeAttemptId
  code := mapGoCardlessCause event.details.cause
  family := familyOf (mapGoCardlessCause event.details.cause)
  rawReason := event.details.description.or event.details.cause
  occurredAt := occurredAt

/-- The customer of a payment; a look-up that fails finds none. -/
def findCustomer (lookups : GcLookups) (id : Option String) : Option GcCustomer := do
  match lookups.getCustomer (← truthy id) with
  | .ok customer => customer
  | .error _ => none

/-- The event of a payment that failed or was confirmed. -/
def mapPaymentEvent (lookups : GcLookups) : CanonicalEvent :=
  let failed := event.action = some "failed"
  let occurredAt := occurredAt event payment
  let invoice := adapter.mapInvoice payment occurredAt failed
  adapter.envelope event payment <|
    if failed then .invoiceFailed {
      invoice := some invoice
      decline := some (buildDecline event invoice.id (attemptIdOf (some payment.id)) occurredAt)
      customer := some (customerFromInvoice invoice (contactOverrides
        ((findCustomer lookups payment.links.customer).bind GcCustomer.email) none)) }
    else .invoicePaid (some invoice)

/-- The reversal of a payment, or its undoing. -/
def reversal (kind : ReversalKind) : ReversalPayload where
  invoiceId := invoiceIdOf payment.id
  amount := cents payment.amount
  currency := payment.currency.getD "GBP"
  kind := kind
  reason := event.details.cause.or event.details.description

def mapReversalEvent : CanonicalEvent :=
  adapter.envelope event payment (.paymentReversed (reversal event payment
    (if event.action = some "charged_back" then .chargeback else .refund)))

def mapReversalRevertedEvent : CanonicalEvent :=
  adapter.envelope event payment (.paymentReversalReverted (reversal event payment .chargeback))

/-- The canonical event of an event of a webhook.  An event whose look-up fails is skipped, as one
    that is of no use. -/
def mapEvent (lookups : GcLookups) : Option CanonicalEvent :=
  if event.resourceType ≠ some "payments" then none
  else if event.action ≠ some "failed" ∧ event.action ≠ some "confirmed" ∧
      event.action ≠ some "charged_back" ∧ event.action ≠ some "refunded" ∧
      event.action ≠ some "chargeback_cancelled" then none
  else do
    let paymentId ← truthy event.links.payment
    match lookups.getPayment paymentId with
    | .error _ => none
    | .ok none => none
    | .ok (some payment) =>
      if event.action = some "charged_back" ∨ event.action = some "refunded" then
        some (adapter.mapReversalEvent event payment)
      else if event.action = some "chargeback_cancelled" then
        some (adapter.mapReversalRevertedEvent event payment)
      else some (adapter.mapPaymentEvent event payment lookups)

/-- Verify and map a webhook; `lookups k` is what the look-ups for event number `k` of its body are
    answered. -/
def ingestWebhook (lookups : ℕ → GcLookups) (raw : RawWebhook GcBody) : Ingested :=
  if !raw.verified then
    .error "GoCardlessAdapter.ingestWebhook: Webhook-Signature verification failed"
  else
    match raw.body with
    | none => .error "GoCardlessAdapter.ingestWebhook: body is not valid JSON"
    | some body => .ok ((body.events.getD []).zipIdx.filterMap fun (event, k) =>
        adapter.mapEvent event (lookups k))

end GoCardlessAdapter

end AX10M
