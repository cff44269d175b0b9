/-
  The Recurly adapter: notifications in JSON or XML, and the invoices of its poll
  (`adapters/recurly`).

  The fields of an XML notification are read by the adapter's patterns, not by a parser.
-/
import AX10M.Js.Number
import AX10M.Poal.Ingress
import AX10M.Poal.Xml
import Mathlib.Data.Rat.Floor

namespace AX10M

open Js

/-! ## Decline codes -/

/-- The codes of transaction errors. -/
def recurlyDeclineMap : List (String × DeclineCode) :=
  [("insufficient_funds", .insufficientFunds), ("try_again_later", .tryAgainLater),
    ("authentication_required", .authenticationRequired), ("expired_card", .expiredCard),
    ("card_not_supported", .cardNotSupported), ("invalid_card", .invalidCard),
    ("invalid_number", .invalidCard), ("lost_card", .lostCard), ("stolen_card", .stolenCard),
    ("closed_account", .closedAccount), ("declined", .doNotHonor), ("call_issuer", .doNotHonor),
    ("fraud", .fraudulent)]

/-- The code of a transaction error. -/
def mapRecurlyDeclineCode (raw : Option String) : DeclineCode :=
  match truthy raw with
  | none => .unknown
  | some raw => codeFrom recurlyDeclineMap (trim raw).toLower

/-! ## Notifications -/

/-- What the adapter reads of a notification. -/
structure RlNotification where
  type : String
  invoiceId : Option String := none
  subscriptionId : Option String := none
  accountCode : Option String := none
  accountEmail : Option String := none
  currency : Option String := none
  amountInCents : Option ℚ := none
  transactionErrorCode : Option String := none
  transactionId : Option String := none
  transactionAmountInCents : Option ℚ := none
  transactionAction : Option String := none
  rawReason : Option String := none
  occurredAt : Option String := none

/-- The invoice block of a JSON notification. -/
structure RlJsonInvoice where
  uuid : Option String := none
  id : Option String := none
  number : Option String := none
  currency : Option String := none
  totalInCents : Option ℚ := none
  balanceInCents : Option ℚ := none

/-- The transaction of a JSON notification. -/
structure RlJsonTransaction where
  id : Option String := none
  uuid : Option String := none
  errorCode : Option String := none
  declineCode : Option String := none
  message : Option String := none
  invoiceId : Option String := none
  invoiceNumber : Option TextOrNumber := none
  amountInCents : Option ℚ := none
  action : Option String := none

/-- A JSON notification; a block that is absent has no fields. -/
structure RlJson where
  type : Option String := none
  eventType : Option String := none
  invoice : RlJsonInvoice := {}
  transaction : RlJsonTransaction := {}
  subscriptionUuid : Option String := none
  subscriptionId : Option String := none
  accountCode : Option String := none
  code : Option String := none
  email : Option String := none
  occurredAt : Option String := none

/-- The body of a notification: JSON, a text that starts like JSON and is none, or XML. -/
inductive RlBody where
  | json (j : RlJson)
  | invalid
  | xml (text : String)

/-- The notification of a JSON body. -/
def RlJson.notification (numberText : ℚ → String) (j : RlJson) : Option RlNotification := do
  let type ← truthy (j.type.or j.eventType)
  let txnInvoiceNumber := j.transaction.invoiceNumber.map (TextOrNumber.toText numberText)
  some {
    type
    invoiceId := (((j.invoice.uuid.or j.invoice.id).or j.invoice.number).or
      j.transaction.invoiceId).or txnInvoiceNumber
    subscriptionId := j.subscriptionUuid.or j.subscriptionId
    accountCode := j.accountCode.or j.code
    accountEmail := j.email
    currency := j.invoice.currency
    amountInCents := j.invoice.balanceInCents.or j.invoice.totalInCents
    transactionErrorCode := j.transaction.errorCode.or j.transaction.declineCode
    transactionId := j.transaction.uuid.or j.transaction.id
    transactionAmountInCents := j.transaction.amountInCents
    transactionAction := j.transaction.action
    rawReason := j.transaction.message.or j.transaction.errorCode
    occurredAt := j.occurredAt }

namespace RlXml

/-- The trimmed text of the first match of a pattern, if there is one (`firstMatch`). -/
def first (matchAt : List Char → Option (List Char)) (cs : List Char) : Option String :=
  (firstMatch matchAt cs).bind fun text =>
    if trimList text = [] then none else some (String.ofList (trimList text))

/-- An element whose content has no tags, with attributes only if they are allowed
    (`<name>([^<]+)<\/name>`). -/
def leafAt (name : String) (attributes : Bool) (cs : List Char) : Option (List Char) := do
  let cs ← dropCaseless ('<' :: name.toList) cs
  let cs ← if attributes then (cs.dropWhile (· ≠ '>')).tail? else dropCaseless ['>'] cs
  let text := cs.takeWhile (· ≠ '<')
  let _ ← dropCaseless (closingTag name) (cs.dropWhile (· ≠ '<'))
  if text = [] then none else some text

/-- An element without attributes, up to its first closing tag. -/
def blockAt (name : String) (cs : List Char) : Option (List Char) := do
  upTo (closingTag name) (← dropCaseless ('<' :: name.toList ++ ['>']) cs)

/-- The first such element somewhere behind an opening tag. -/
def leafBehind (opening name : String) (cs : List Char) : Option (List Char) := do
  firstMatch (leafAt name false) (← dropCaseless ('<' :: opening.toList ++ ['>']) cs)

/-- The name of a notification in its opening tag (`<\s*([a-z_]+_notification)\b`). -/
def typeAt (cs : List Char) : Option (List Char) := do
  let cs ← dropCaseless ['<'] cs
  let name := (cs.dropWhile isSpace).takeWhile fun c => c.isAlpha || c = '_'
  let rest := (cs.dropWhile isSpace).dropWhile fun c => c.isAlpha || c = '_'
  let suffix := "_notification".toList
  if suffix.length < name.length ∧
      (name.map Char.toLower).drop (name.length - suffix.length) = suffix ∧
      (rest.head?.all fun c => !isWordChar c) then some name
  else none

variable (text : String)

/-- The invoice block of a notification. -/
def invoiceBlock : List Char := ((first (blockAt "invoice") text.toList).getD "").toList

/-- The transaction block of a notification. -/
def txnBlock : List Char := ((first (blockAt "transaction") text.toList).getD "").toList

/-- A number of cents, none if it is zero. -/
def cents (name : String) (block : List Char) : Option ℚ :=
  ((first (leafAt name true) block).bind numberOf).bind fun n => if n = 0 then none else some n

/-- The notification of an XML body. -/
def notification : Option RlNotification := do
  let type ← first typeAt text.toList
  let errorCode := first (leafAt "error_code" true) (txnBlock text)
  some {
    type
    invoiceId := (((first (leafAt "uuid" false) (invoiceBlock text)).or
      (first (leafAt "invoice_number" true) (invoiceBlock text))).or
      (first (leafAt "invoice_id" false) (txnBlock text))).or
      (first (leafAt "invoice_number" true) (txnBlock text))
    subscriptionId := first (leafBehind "subscription" "uuid") text.toList
    accountCode := first (leafBehind "account" "account_code") text.toList
    accountEmail := first (leafBehind "account" "email") text.toList
    currency := first (leafAt "currency" false) (invoiceBlock text)
    amountInCents := cents "total_in_cents" (invoiceBlock text)
    transactionErrorCode := errorCode
    transactionId := (first (leafAt "uuid" false) (txnBlock text)).or
      (first (leafAt "id" true) (txnBlock text))
    transactionAmountInCents := cents "amount_in_cents" (txnBlock text)
    transactionAction := first (leafAt "action" false) (txnBlock text)
    rawReason := (first (leafAt "message" false) (txnBlock text)).or errorCode }

end RlXml

/-- The notification of a body. -/
def parseRecurlyNotification (numberText : ℚ → String) : RlBody → Option RlNotification
  | .json j => j.notification numberText
  | .invalid => none
  | .xml text => RlXml.notification text

/-! ## The adapter -/

/-- An invoice of the poll. -/
structure RlInvoice where
  id : Option String := none
  uuid : Option String := none
  number : Option String := none
  state : Option String := none
  currency : Option String := none
  total : Option ℚ := none
  balance : Option ℚ := none
  totalInCents : Option ℚ := none
  balanceInCents : Option ℚ := none
  accountId : Option String := none
  accountCode : Option String := none
  subscriptionIds : List String := []
  createdAt : Option String := none
  updatedAt : Option String := none

/-- An amount in major units, in cents. -/
def toCents (major : Option ℚ) : Option MinorUnits := major.map fun n => Js.round (n * 100)

/-- The amount of an invoice: its balance or total. -/
def invoiceCents (inv : RlInvoice) : MinorUnits :=
  (((inv.balanceInCents.or inv.totalInCents).or (toCents inv.balance)).or
    (toCents inv.total)).getD 0

/-- The status of an invoice with a state. -/
def mapInvoiceState : Option String → InvoiceStatus
  | some "paid" => .paid
  | some "voided" | some "closed" => .void
  | some "failed" => .uncollectible
  | _ => .open

/-- The adapter of a merchant; `webhookAuth` says whether credentials are configured, and
    `numberText` is the text of a number (`String`). -/
structure RecurlyAdapter where
  merchantId : String
  webhookAuth : Bool := true
  numberText : ℚ → String

namespace RecurlyAdapter

variable (adapter : RecurlyAdapter)

/-- An invoice of the poll (`mapInvoice`). -/
def mapInvoice (inv : RlInvoice) (occurredAt : String) (failed : Bool) : Invoice :=
  let ref := ((inv.uuid.or inv.id).or inv.number).getD ""
  { id := invoiceIdOf ref
    subscriptionId := prefixed "ax10m_sub_" inv.subscriptionIds.head?
    customerId := (prefixed "ax10m_cus_" (inv.accountCode.or inv.accountId)).getD ""
    merchantId := adapter.merchantId
    processorRef := ref
    amount := ⟨invoiceCents inv, inv.currency.getD "USD"⟩
    status := mapInvoiceState inv.state
    firstFailedAt := if failed then some occurredAt else none
    createdAt := toIso inv.createdAt }

/-- A page of past due invoices. -/
def listOpenFailures (page : List RlInvoice) : List Invoice :=
  page.map fun inv => adapter.mapInvoice inv (toIso (inv.updatedAt.or inv.createdAt)) true

/-- The invoice of a notification. -/
def mapNotificationInvoice (note : RlNotification) (occurredAt : String) (failed : Bool) :
    Invoice :=
  let ref := note.invoiceId.getD ""
  { id := invoiceIdOf ref
    subscriptionId := prefixed "ax10m_sub_" note.subscriptionId
    customerId := (prefixed "ax10m_cus_" note.accountCode).getD ""
    merchantId := adapter.merchantId
    processorRef := ref
    amount := ⟨note.amountInCents.getD 0, note.currency.getD "USD"⟩
    status := if failed then .open else .paid
    firstFailedAt := if failed then some occurredAt else none
    createdAt := occurredAt }

def buildDecline (note : RlNotification) (invoiceId chargeAttemptId occurredAt : String) :
    DeclineEvent where
  id := "ax10m_dec_" ++ note.transactionId.getD invoiceId
  invoiceId := invoiceId
  chargeAttemptId := chargeAttemptId
  code := mapRecurlyDeclineCode note.transactionErrorCode
  family := familyOf (mapRecurlyDeclineCode note.transactionErrorCode)
  rawReason := note.rawReason.or note.transactionErrorCode
  occurredAt := occurredAt

/-- The body of a notification's event, if it is acted on. -/
def body (note : RlNotification) (occurredAt : String) : Option EventBody :=
  match note.type with
  | "failed_payment_notification" | "failed_charge" =>
    let invoice := adapter.mapNotificationInvoice note occurredAt true
    some (.invoiceFailed {
      invoice := some invoice
      decline := some (buildDecline note invoice.id (attemptIdOf note.transactionId) occurredAt)
      customer := some (customerFromInvoice invoice (contactOverrides note.accountEmail none)) })
  | "successful_payment_notification" | "paid_charge" =>
    some (.invoicePaid (some (adapter.mapNotificationInvoice note occurredAt false)))
  | "successful_refund_notification" => do
    let ref ← truthy note.invoiceId
    let amount := (note.transactionAmountInCents.or note.amountInCents).getD 0
    if amount ≤ 0 then none
    else some (.paymentReversed ⟨invoiceIdOf ref, amount, note.currency.getD "USD", .refund,
      note.rawReason.or note.transactionAction⟩)
  | "canceled_subscription_notification" =>
    (truthy note.subscriptionId).map fun _ => .subscriptionUpdated
  | _ => none

/-- The events of a notification. -/
def mapNotification (note : RlNotification) : List CanonicalEvent :=
  let occurredAt := toIso note.occurredAt
  ((adapter.body note occurredAt).map fun body =>
    ⟨"ax10m_evt_" ++ (note.transactionId.or note.invoiceId).getD note.type, adapter.merchantId,
      (note.transactionId.or note.invoiceId).getD "", occurredAt, body⟩).toList

/-- Verify and map a webhook. -/
def ingestWebhook (verified : Bool) (raw : RlBody) : Ingested :=
  if !adapter.webhookAuth then
    .error ("RecurlyAdapter.ingestWebhook: webhook Basic-auth credentials not configured — " ++
      "refusing unverified webhook")
  else if !verified then
    .error "RecurlyAdapter.ingestWebhook: webhook Basic auth verification failed"
  else
    .ok (((parseRecurlyNotification adapter.numberText raw).map adapter.mapNotification).getD [])

end RecurlyAdapter

end AX10M
