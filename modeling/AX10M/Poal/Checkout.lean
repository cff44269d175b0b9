/-
  The Checkout.com adapter: webhook envelopes, and the canonical events it makes of them
  (`adapters/checkout`).
-/
import AX10M.Poal.Ingress

namespace AX10M

open Js

structure CkoPhone where
  countryCode : Option String := none
  number : Option String := none

structure CkoCustomer where
  email : Option String := none
  phone : Option CkoPhone := none

/-- The data of a webhook: a payment, or a dispute. -/
structure CkoData where
  id : Option String := none
  reference : Option String := none
  amount : Option ℚ := none
  currency : Option String := none
  responseCode : Option String := none
  responseSummary : Option String := none
  paymentId : Option String := none
  paymentReference : Option String := none
  reasonCode : Option String := none
  category : Option String := none
  customer : Option CkoCustomer := none

structure CkoWebhookEnvelope where
  id : Option String := none
  type : Option String := none
  createdOn : Option String := none
  data : Option CkoData := none

/-- The codes of declined payments. -/
def checkoutDeclineMap : List (String × DeclineCode) :=
  [("20051", .insufficientFunds), ("20005", .invalidCard), ("20014", .invalidCard),
    ("20055", .invalidCard), ("20012", .invalidCard), ("20054", .expiredCard),
    ("20001", .revocationOfAuthorization), ("20002", .revocationOfAuthorization),
    ("20004", .pickupCard), ("20007", .pickupCard), ("20041", .lostCard), ("20042", .stolenCard),
    ("20059", .stolenCard), ("20063", .stolenCard), ("20006", .doNotHonor),
    ("20046", .doNotHonor), ("20087", .doNotHonor), ("20093", .fraudulent),
    ("40101", .fraudulent), ("20068", .issuerUnavailable), ("20091", .issuerUnavailable),
    ("30041", .processingError), ("20061", .velocityLimitExceeded),
    ("20065", .velocityLimitExceeded), ("20150", .authenticationRequired),
    ("20057", .cardNotSupported), ("20058", .cardNotSupported)]

/-- The code of a response code. -/
def mapCheckoutResponseCode (raw : Option String) : DeclineCode :=
  match truthy raw with
  | none => .unknown
  | some raw => codeFrom checkoutDeclineMap (trim raw)

/-- The phone number of a customer, with its country code if there is one. -/
def checkoutPhone (phone : Option CkoPhone) : Option String := do
  let phone ← phone
  let number ← truthy phone.number
  match truthy (phone.countryCode.map fun cc => String.ofList (cc.toList.filter Char.isDigit)) with
  | some cc => some ("+" ++ cc ++ number)
  | none => some number

/-- The adapter of a merchant; `webhookSecret` says whether it has a signing secret. -/
structure CheckoutAdapter where
  merchantId : String
  webhookSecret : Bool := true

namespace CkoData

variable (data : CkoData)

/-- The reference of a payment. -/
def paymentRef : String := (data.reference.or data.id).getD ""

/-- The reference of the payment of a dispute. -/
def disputeRef : String := (data.paymentReference.or data.paymentId).getD ""

def value : MinorUnits := cents data.amount

def money : Money := ⟨data.value, data.currency.getD "USD"⟩

end CkoData

namespace CheckoutAdapter

variable (adapter : CheckoutAdapter) (data : CkoData)

/-- The body of a reversal that can be joined to a recovery. -/
def reversalBody (make : ReversalPayload → EventBody) (ref : String) (kind : ReversalKind)
    (reason : Option String) : List EventBody :=
  if ref = "" ∨ data.value ≤ 0 then []
  else [make ⟨invoiceIdOf ref, data.value, data.money.currency, kind, reason⟩]

/-- A reversal whose data is a payment. -/
def reversalFromPayment (kind : ReversalKind) : List EventBody :=
  reversalBody data .paymentReversed data.paymentRef kind (data.responseSummary.or data.reasonCode)

/-- A reversal whose data is a dispute. -/
def reversalFromDispute : List EventBody :=
  reversalBody data .paymentReversed data.disputeRef .chargeback (data.reasonCode.or data.category)

/-- A reinstatement, whose data is a dispute. -/
def reinstatementFromDispute (reason : String) : List EventBody :=
  reversalBody data .paymentReversalReverted data.disputeRef .chargeback (some reason)

/-- The invoice of a payment. -/
def mapInvoice (occurredAt : String) (failed : Bool) : Invoice where
  id := invoiceIdOf data.paymentRef
  customerId := ""
  merchantId := adapter.merchantId
  processorRef := data.paymentRef
  amount := data.money
  status := if failed then .open else .paid
  firstFailedAt := if failed then some occurredAt else none
  createdAt := occurredAt

/-- The decline of a payment. -/
def mapDecline (invoiceId chargeAttemptId occurredAt : String) : DeclineEvent where
  id := "ax10m_dec_" ++ data.id.getD invoiceId
  invoiceId := invoiceId
  chargeAttemptId := chargeAttemptId
  code := mapCheckoutResponseCode data.responseCode
  family := familyOf (mapCheckoutResponseCode data.responseCode)
  rawReason := data.responseSummary.or data.responseCode
  occurredAt := occurredAt

/-- The bodies of the events of an envelope. -/
def bodies (type : Option String) (occurredAt : String) : List EventBody :=
  match type with
  | some "payment_declined" =>
    let invoice := adapter.mapInvoice data occurredAt true
    [.invoiceFailed {
      invoice := some invoice
      decline := some (mapDecline data invoice.id (attemptIdOf data.id) occurredAt)
      customer := some (customerFromInvoice invoice
        (contactOverrides (data.customer.bind CkoCustomer.email)
          (checkoutPhone (data.customer.bind CkoCustomer.phone)))) }]
  | some "payment_captured" | some "payment_approved" =>
    [.invoicePaid (some (adapter.mapInvoice data occurredAt false))]
  | some "payment_refunded" => reversalFromPayment data .refund
  | some "payment_chargeback" => reversalFromPayment data .chargeback
  | some "dispute_received" => reversalFromDispute data
  | some "dispute_won" => reinstatementFromDispute data "dispute_won"
  | some "dispute_canceled" => reinstatementFromDispute data "dispute_canceled"
  | _ => []

/-- The events of an envelope. -/
def mapEnvelope (envelope : CkoWebhookEnvelope) : List CanonicalEvent :=
  let eventId := envelope.id.getD ""
  let occurredAt := toIso envelope.createdOn
  (adapter.bodies (envelope.data.getD {}) envelope.type occurredAt).map fun body =>
    ⟨"ax10m_evt_" ++ eventId, adapter.merchantId, eventId, occurredAt, body⟩

/-- Verify and map a webhook. -/
def ingestWebhook (raw : RawWebhook CkoWebhookEnvelope) : Ingested :=
  if !adapter.webhookSecret then
    .error ("CheckoutAdapter.ingestWebhook: webhookSecret not configured — refusing unverified " ++
      "webhook")
  else if !raw.verified then
    .error "CheckoutAdapter.ingestWebhook: Cko-Signature verification failed"
  else
    match raw.body with
    | none => .error "CheckoutAdapter.ingestWebhook: body is not valid JSON"
    | some envelope => .ok (adapter.mapEnvelope envelope)

end CheckoutAdapter

end AX10M
