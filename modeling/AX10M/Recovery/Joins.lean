/-
  Joining what follows a failed payment to the case it opened.

  Each adapter derives the invoice id of a webhook from the references the webhook carries, and
  each says here when two webhooks about one payment get one id: at PayPal if the capture that is
  charged has the reference of the one that failed, at Recurly if the first references that are
  carried agree, and at Shopify if the payloads have one id (`followups_join_iff`).
-/
import AX10M.Poal.PayPal
import AX10M.Poal.Recurly
import AX10M.Poal.Shopify
import AX10M.Recovery.Ingest

namespace AX10M

open Js

theorem EventBody.invoiceId_of_fails {e : CanonicalEvent} {invoice : Invoice}
    (h : Fails e invoice) : e.body.invoiceId = some invoice.id := by
  obtain ⟨payload, hb, hi⟩ := h
  rw [hb, invoiceId, hi, Option.map_some]

/-! ## PayPal -/

/-- A refund of a capture, with the references that its order was created with. -/
structure RefundOf (request : PpOrderRequest) (capture : String) (r : PpResource) : Prop where
  invoiceId : r.invoiceId = request.invoiceId
  customId : r.customId = request.customId
  capture : captureIdFromRefundLinks r.links = some capture

/-- A dispute of a capture, with the references that its order was created with. -/
structure DisputeOf (request : PpOrderRequest) (capture : String) (r : PpResource) : Prop where
  listed : r.disputedTransactions ≠ []
  transactions : ∀ tx ∈ r.disputedTransactions, tx.sellerTransactionId = some capture ∧
    tx.invoiceNumber = request.invoiceId ∧ tx.custom = request.customId

/-- A webhook about a capture: its refund, or its dispute. -/
def FollowsCapture (request : PpOrderRequest) (capture : String) (webhook : PpWebhook) : Prop :=
  (webhook.eventType = some "PAYMENT.CAPTURE.REFUNDED" ∧
    RefundOf request capture webhook.resource) ∨
  ((webhook.eventType = some "CUSTOMER.DISPUTE.CREATED" ∨
    webhook.eventType = some "CUSTOMER.DISPUTE.RESOLVED") ∧
    DisputeOf request capture webhook.resource)

namespace PayPalAdapter

variable {adapter : PayPalAdapter} {webhook : PpWebhook} {e : CanonicalEvent}

theorem body_of_delivers (h : Delivers (adapter.ingestWebhook ⟨true, some webhook⟩) e) :
    adapter.body webhook.resource webhook.eventType (toIso webhook.createTime) = some e.body := by
  obtain ⟨events, hin, he⟩ := h
  cases hw : adapter.webhookId with
  | false => simp [ingestWebhook, hw] at hin
  | true =>
    simp only [ingestWebhook, hw, Bool.not_true, Bool.false_eq_true, if_false,
      Except.ok.injEq] at hin
    subst hin
    simp only [mapWebhook, Option.mem_toList, Option.map_eq_some_iff] at he
    obtain ⟨body, hb, rfl⟩ := he
    exact hb

theorem reversalBody_eq_some {make : ReversalPayload → EventBody} {ref : Option String}
    {money : Money} {kind : ReversalKind} {reason : Option String} {b : EventBody}
    (h : reversalBody make ref money kind reason = some b) :
    ∃ r p, truthy ref = some r ∧ p.invoiceId = invoiceIdOf r ∧ b = make p := by
  unfold reversalBody at h
  cases hr : truthy ref with
  | none => simp [hr] at h
  | some r =>
    simp only [hr, Option.bind_eq_bind, Option.bind_some] at h
    split_ifs at h
    exact ⟨r, _, rfl, rfl, (Option.some.inj h).symm⟩

/-- A failed capture or sale names its invoice after its reference. -/
theorem failed_id {invoice : Invoice}
    (h : Delivers (adapter.ingestWebhook ⟨true, some webhook⟩) e) (hf : Fails e invoice) :
    invoice.id = invoiceIdOf webhook.resource.captureRef := by
  have hb := body_of_delivers h
  obtain ⟨payload, hp, hi⟩ := hf
  rw [hp] at hb
  have denied : ∀ {b : EventBody}, b = .invoiceFailed payload →
      b.invoiceId = some (invoiceIdOf webhook.resource.captureRef) →
      invoice.id = invoiceIdOf webhook.resource.captureRef := by
    rintro _ rfl hid
    rw [EventBody.invoiceId, hi] at hid
    exact Option.some.inj hid
  have reversal : ∀ {make ref money kind reason}, make = .paymentReversed ∨
      make = .paymentReversalReverted →
      reversalBody make ref money kind reason ≠ some (.invoiceFailed payload) := by
    rintro make ref money kind reason (rfl | rfl) h
    · obtain ⟨r, p, -, -, h⟩ := reversalBody_eq_some h
      cases h
    · obtain ⟨r, p, -, -, h⟩ := reversalBody_eq_some h
      cases h
  unfold body at hb
  split at hb
  · exact denied (Option.some.inj hb) rfl
  · exact denied (Option.some.inj hb) rfl
  · exact denied (Option.some.inj hb) rfl
  · cases hb
  · cases hb
  · exact absurd hb (reversal (.inl rfl))
  · exact absurd hb (reversal (.inl rfl))
  · split_ifs at hb
    exact absurd hb (reversal (.inr rfl))
  · cases hb
  · cases hb

theorem refundRef_of {request : PpOrderRequest} {capture : String} {r : PpResource}
    (h : RefundOf request capture r) (hi : request.invoiceId = none)
    (hc : request.customId = none) : r.refundRef = some capture := by
  rw [PpResource.refundRef, h.invoiceId, h.customId, h.capture, hi, hc]
  rfl

theorem disputeRef_of {request : PpOrderRequest} {capture : String} {r : PpResource}
    (h : DisputeOf request capture r) (hi : request.invoiceId = none)
    (hc : request.customId = none) {ref : String} (hr : r.disputeInvoiceRef = some ref) :
    ref = capture := by
  simp only [PpResource.disputeInvoiceRef, Option.bind_eq_bind, Option.bind_eq_some_iff] at hr
  obtain ⟨tx, htx, href⟩ := hr
  obtain ⟨hs, hn, hcu⟩ := h.transactions tx (List.mem_of_find?_eq_some htx)
  rw [hs, hn, hcu, hi, hc] at href
  exact (Option.some.inj href).symm

/-- A refund or dispute of a capture names the invoice after the capture, whatever invoice it was
    charged for: the order carries no reference that comes back. -/
theorem followUp_id {invoice : Invoice} {method : PaymentMethod} {capture : String}
    (h : Delivers (adapter.ingestWebhook ⟨true, some webhook⟩) e)
    (hf : FollowsCapture (orderRequest invoice method) capture webhook) :
    e.body.invoiceId = some (invoiceIdOf capture) := by
  have hb := body_of_delivers h
  have named : ∀ {make ref money kind reason}, make = .paymentReversed ∨
      make = .paymentReversalReverted → (∀ r, ref = some r → r = capture) →
      reversalBody make ref money kind reason = some e.body →
      e.body.invoiceId = some (invoiceIdOf capture) := by
    intro make ref money kind reason hmake href h
    obtain ⟨r, p, hr, hid, heq⟩ := reversalBody_eq_some h
    obtain rfl := href r (truthy_eq_some hr)
    rw [heq, ← hid]
    rcases hmake with rfl | rfl <;> rfl
  rcases hf with ⟨ht, hf⟩ | ⟨ht | ht, hf⟩
  · rw [ht] at hb
    refine named (.inl rfl) ?_ hb
    intro r hr
    rw [refundRef_of hf rfl rfl] at hr
    exact (Option.some.inj hr).symm
  · rw [ht] at hb
    exact named (.inl rfl) (fun r hr => disputeRef_of hf rfl rfl hr) hb
  · rw [ht] at hb
    simp only [body] at hb
    split_ifs at hb
    exact named (.inr rfl) (fun r hr => disputeRef_of hf rfl rfl hr) hb

end PayPalAdapter

/-! ## Recurly -/

/-- The kinds of references of an invoice. -/
inductive RlRef where
  | uuid | id | number
  deriving DecidableEq

/-- The references of an invoice. -/
structure RlIdentity where
  uuid : String
  id : String
  number : String

def RlIdentity.ref (x : RlIdentity) : RlRef → String
  | .uuid => x.uuid
  | .id => x.id
  | .number => x.number

/-- What tells of an invoice: a notification, or the poll. -/
inductive RlSource where
  | webhook (body : RlBody)
  | poll (inv : RlInvoice)

/-- The references that a source may carry, first those that are preferred. -/
def RlSource.refs (numberText : ℚ → String) : RlSource → List (RlRef × Option String)
  | .webhook (.json j) =>
    [(.uuid, j.invoice.uuid), (.id, j.invoice.id), (.number, j.invoice.number),
      (.uuid, j.transaction.invoiceId),
      (.number, j.transaction.invoiceNumber.map (TextOrNumber.toText numberText))]
  | .webhook .invalid => []
  | .webhook (.xml text) =>
    [(.uuid, RlXml.first (RlXml.leafAt "uuid" false) (RlXml.invoiceBlock text)),
      (.number, RlXml.first (RlXml.leafAt "invoice_number" true) (RlXml.invoiceBlock text)),
      (.uuid, RlXml.first (RlXml.leafAt "invoice_id" false) (RlXml.txnBlock text)),
      (.number, RlXml.first (RlXml.leafAt "invoice_number" true) (RlXml.txnBlock text))]
  | .poll inv => [(.uuid, inv.uuid), (.id, inv.id), (.number, inv.number)]

namespace RlIdentity

variable (x : RlIdentity) (refs : List (RlRef × Option String))

/-- Every reference that is carried is the invoice's. -/
def Told : Prop := ∀ r ∈ refs, ∀ v ∈ r.2, v = x.ref r.1

/-- The first reference that is carried, empty if there is none. -/
def leading : String := ((refs.find? fun r => r.2.isSome).map fun r => x.ref r.1).getD ""

variable {x refs}

theorem leading_of_told (h : x.Told refs) : (refs.findSome? Prod.snd).getD "" = x.leading refs := by
  induction refs with
  | nil => rfl
  | cons r refs ih =>
    have ih := ih fun r hr => h r (List.mem_cons_of_mem _ hr)
    obtain ⟨kind, v⟩ := r
    cases v with
    | none => simpa [leading] using ih
    | some v => simp [leading, h (kind, some v) List.mem_cons_self v rfl]

end RlIdentity

namespace RecurlyAdapter

variable {adapter : RecurlyAdapter}

/-- The source names an invoice. -/
def Names (adapter : RecurlyAdapter) : RlSource → String → Prop
  | .webhook body, i =>
    ∃ e, Delivers (adapter.ingestWebhook true body) e ∧ e.body.invoiceId = some i
  | .poll inv, i => ∃ invoice ∈ adapter.listOpenFailures [inv], invoice.id = i

/-- An event of a notification is about the invoice that the notification names. -/
theorem body_invoiceId {note : RlNotification} {occurredAt : String} {b : EventBody} {i : String}
    (hb : adapter.body note occurredAt = some b) (hi : b.invoiceId = some i) :
    i = invoiceIdOf (note.invoiceId.getD "") := by
  unfold body at hb
  split at hb
  · obtain rfl := Option.some.inj hb
    exact (Option.some.inj hi).symm
  · obtain rfl := Option.some.inj hb
    exact (Option.some.inj hi).symm
  · obtain rfl := Option.some.inj hb
    exact (Option.some.inj hi).symm
  · obtain rfl := Option.some.inj hb
    exact (Option.some.inj hi).symm
  · cases hr : truthy note.invoiceId with
    | none => simp [hr] at hb
    | some r =>
      simp only [hr, Option.bind_eq_bind, Option.bind_some] at hb
      split_ifs at hb
      obtain rfl := Option.some.inj hb
      rw [truthy_eq_some hr]
      exact (Option.some.inj hi).symm
  · obtain ⟨s, -, rfl⟩ := Option.map_eq_some_iff.1 hb
    cases hi
  · cases hb

theorem findSome_cons (r : RlRef × Option String) (refs : List (RlRef × Option String)) :
    (r :: refs).findSome? Prod.snd = r.2.or (refs.findSome? Prod.snd) := by
  obtain ⟨kind, v⟩ := r
  cases v <;> rfl

/-- A notification names its invoice after the first reference it carries. -/
theorem parse_invoiceId {numberText : ℚ → String} {raw : RlBody} {note : RlNotification}
    (h : parseRecurlyNotification numberText raw = some note) :
    note.invoiceId = ((RlSource.webhook raw).refs numberText).findSome? Prod.snd := by
  cases raw with
  | json j =>
    simp only [parseRecurlyNotification, RlJson.notification, Option.bind_eq_bind,
      Option.bind_eq_some_iff] at h
    obtain ⟨type, -, h⟩ := h
    obtain rfl := Option.some.inj h
    simp only [RlSource.refs, findSome_cons, List.findSome?_nil, Option.or_none, Option.or_assoc]
  | invalid => cases h
  | xml text =>
    simp only [parseRecurlyNotification, RlXml.notification, Option.bind_eq_bind,
      Option.bind_eq_some_iff] at h
    obtain ⟨type, -, h⟩ := h
    obtain rfl := Option.some.inj h
    simp only [RlSource.refs, findSome_cons, List.findSome?_nil, Option.or_none, Option.or_assoc]

/-- A source names its invoice after the first reference it carries. -/
theorem named {src : RlSource} {i : String} (h : adapter.Names src i) :
    i = invoiceIdOf (((src.refs adapter.numberText).findSome? Prod.snd).getD "") := by
  cases src with
  | poll inv =>
    obtain ⟨invoice, hm, rfl⟩ := h
    obtain rfl := List.mem_singleton.1 hm
    simp only [mapInvoice, RlSource.refs, findSome_cons, List.findSome?_nil, Option.or_none,
      Option.or_assoc]
  | webhook body =>
    obtain ⟨e, ⟨events, hin, he⟩, hi⟩ := h
    cases hw : adapter.webhookAuth with
    | false => simp [ingestWebhook, hw] at hin
    | true =>
      simp only [ingestWebhook, hw, Bool.not_true, Bool.false_eq_true, if_false,
        Except.ok.injEq] at hin
      subst hin
      cases hn : parseRecurlyNotification adapter.numberText body with
      | none => simp [hn] at he
      | some note =>
        simp only [hn, Option.map_some, Option.getD_some, mapNotification, Option.mem_toList,
          Option.map_eq_some_iff] at he
        obtain ⟨b, hb, rfl⟩ := he
        rw [← parse_invoiceId hn]
        exact body_invoiceId hb hi

/-- Two sources that tell of an invoice name it alike exactly if the first references they carry
    are one. -/
theorem names_eq_iff {x : RlIdentity} {src src' : RlSource} {i i' : String}
    (h : x.Told (src.refs adapter.numberText)) (h' : x.Told (src'.refs adapter.numberText))
    (hi : adapter.Names src i) (hi' : adapter.Names src' i') :
    i' = i ↔
      x.leading (src'.refs adapter.numberText) = x.leading (src.refs adapter.numberText) := by
  rw [named hi, named hi', invoiceIdOf_inj, RlIdentity.leading_of_told h,
    RlIdentity.leading_of_told h']

end RecurlyAdapter

/-! ## Shopify -/

namespace ShopifyAdapter

variable {adapter : ShopifyAdapter} {payload : ShopifyWebhookPayload} {topic : String}
  {e : CanonicalEvent}

/-- Every event names its invoice after the id of the payload. -/
theorem delivers_id {i : String}
    (h : Delivers (adapter.ingestWebhook (some topic) ⟨true, some payload⟩) e)
    (hi : e.body.invoiceId = some i) : i = invoiceIdOf (adapter.idText payload.id) := by
  obtain ⟨events, hin, he⟩ := h
  cases hs : adapter.apiSecret with
  | false => simp [ingestWebhook, hs] at hin
  | true =>
    simp only [ingestWebhook, hs, Bool.not_true, Bool.false_eq_true, if_false,
      Option.getD_some, Except.ok.injEq] at hin
    subst hin
    simp only [Option.mem_toList, Option.map_eq_some_iff] at he
    obtain ⟨b, hb, rfl⟩ := he
    unfold body at hb
    split at hb
    · obtain rfl := Option.some.inj hb
      exact (Option.some.inj hi).symm
    · obtain rfl := Option.some.inj hb
      exact (Option.some.inj hi).symm
    · obtain rfl := Option.some.inj hb
      exact (Option.some.inj hi).symm
    · cases hb

end ShopifyAdapter

/-! ## Every follow-up joins its case -/

/-- When a follow-up of a failed payment is given the id of the invoice that the failure opened.  At
    PayPal, a refund or dispute of a capture that was charged for the invoice: if the capture has
    the reference of the resource that failed.  At Recurly, whatever tells of one invoice: if the
    first references carried are one.  At Shopify, another webhook: if the payloads have one
    id. -/
theorem followups_join_iff (paypal : PayPalAdapter) (recurly : RecurlyAdapter)
    (shopify : ShopifyAdapter) :
    (∀ failure followUp e e' invoice method capture,
      Delivers (paypal.ingestWebhook ⟨true, some failure⟩) e → Fails e invoice →
      Delivers (paypal.ingestWebhook ⟨true, some followUp⟩) e' →
      FollowsCapture (PayPalAdapter.orderRequest invoice method) capture followUp →
      (e'.body.invoiceId = some invoice.id ↔ capture = failure.resource.captureRef)) ∧
    (∀ (x : RlIdentity) src src' i i',
      x.Told (src.refs recurly.numberText) → x.Told (src'.refs recurly.numberText) →
      recurly.Names src i → recurly.Names src' i' →
      (i' = i ↔
        x.leading (src'.refs recurly.numberText) = x.leading (src.refs recurly.numberText))) ∧
    ∀ failure settled topic e e' invoice i,
      Delivers (shopify.ingestWebhook (some "subscription_billing_attempts/failure")
        ⟨true, some failure⟩) e → Fails e invoice →
      topic ∈ ["subscription_billing_attempts/success", "orders/paid"] →
      Delivers (shopify.ingestWebhook (some topic) ⟨true, some settled⟩) e' →
      e'.body.invoiceId = some i →
      (i = invoice.id ↔ shopify.idText settled.id = shopify.idText failure.id) := by
  refine ⟨?_, ?_, ?_⟩
  · intro failure followUp e e' invoice method capture he hf he' hfollow
    rw [PayPalAdapter.followUp_id he' hfollow, PayPalAdapter.failed_id he hf, Option.some.injEq,
      invoiceIdOf_inj]
  · intro x src src' i i' h h' hi hi'
    exact RecurlyAdapter.names_eq_iff h h' hi hi'
  · intro failure settled topic e e' invoice i he hf _ he' hi
    rw [ShopifyAdapter.delivers_id he' hi,
      ShopifyAdapter.delivers_id he (EventBody.invoiceId_of_fails hf), invoiceIdOf_inj]

namespace Sample

def paypal : PayPalAdapter := { merchantId := "mrc_1" }

/-- A capture that was denied. -/
def denied : PpWebhook where
  id := some "WH-1"
  eventType := some "PAYMENT.CAPTURE.DENIED"
  resource := { id := some "CAP-1", amount := some ⟨some "149.00", some "USD"⟩ }

/-- A refund of a capture of ours. -/
def refunded (capture : String) : PpWebhook where
  id := some "WH-2"
  eventType := some "PAYMENT.CAPTURE.REFUNDED"
  resource := {
    id := some "REF-1"
    amount := some ⟨some "149.00", some "USD"⟩
    links := [⟨some ("https://api.paypal.com/v2/payments/captures/" ++ capture), some "up"⟩] }

def recurly : RecurlyAdapter := { merchantId := "mrc_1", numberText := fun n => toString n.num }

/-- A failure with the uuid of the invoice. -/
def failedByUuid : RlBody :=
  .json { type := some "failed_payment_notification", invoice := { uuid := some "u-1" } }

/-- A refund with the number of the invoice. -/
def refundedByNumber : RlBody :=
  .json {
    type := some "successful_refund_notification"
    transaction := { invoiceNumber := some (.number 1001), amountInCents := some 100 } }

def shopify : ShopifyAdapter where
  merchantId := "mrc_1"
  numberText n := toString n.num
  contractContact _ := none

/-- A billing attempt or an order with the id. -/
def shopifyPayload (id : ℚ) : ShopifyWebhookPayload := { id := some (.number id) }

/-- The ids of the invoices that a webhook's events are about. -/
def invoiceIds (ingested : Ingested) : List (Option String) :=
  match ingested with
  | .ok events => events.map fun e => e.body.invoiceId
  | .error _ => []

end Sample

/-- The refund of a new capture, a refund with the number of an invoice that failed with its uuid,
    and the order of a billing attempt are each given another id. -/
theorem followups_join_fails :
    (Sample.invoiceIds (Sample.paypal.ingestWebhook ⟨true, some Sample.denied⟩) =
        [some "ax10m_inv_CAP-1"] ∧
      Sample.invoiceIds (Sample.paypal.ingestWebhook ⟨true, some (Sample.refunded "CAP-2")⟩) =
        [some "ax10m_inv_CAP-2"]) ∧
    (Sample.invoiceIds (Sample.recurly.ingestWebhook true Sample.failedByUuid) =
        [some "ax10m_inv_u-1"] ∧
      Sample.invoiceIds (Sample.recurly.ingestWebhook true Sample.refundedByNumber) =
        [some "ax10m_inv_1001"]) ∧
    Sample.invoiceIds (Sample.shopify.ingestWebhook
        (some "subscription_billing_attempts/failure") ⟨true, some (Sample.shopifyPayload 1)⟩) =
      [some "ax10m_inv_1"] ∧
    Sample.invoiceIds (Sample.shopify.ingestWebhook (some "orders/paid")
        ⟨true, some (Sample.shopifyPayload 2)⟩) = [some "ax10m_inv_2"] := by
  refine ⟨⟨?_, ?_⟩, ⟨?_, ?_⟩, ?_, ?_⟩ <;> decide +kernel

/-- The reversal of a refund of a capture. -/
def Sample.refundOf (capture : String) : CanonicalEvent where
  id := "ax10m_evt_WH-2"
  merchantId := "mrc_1"
  processorEventId := "WH-2"
  occurredAt := epochIso
  body := .paymentReversed ⟨invoiceIdOf capture, 14900, "USD", .refund, none⟩

/-- The refund of a capture with the reference of the one that failed is given its id. -/
theorem followups_join_same :
    (Sample.refundOf "CAP-1").body.invoiceId =
      some (Sample.paypal.mapResourceInvoice Sample.denied.resource epochIso true).id := by
  have hrefund : Sample.paypal.ingestWebhook ⟨true, some (Sample.refunded "CAP-1")⟩ =
      .ok [Sample.refundOf "CAP-1"] := by decide +kernel
  have hlink : captureIdFromRefundLinks (Sample.refunded "CAP-1").resource.links =
      some "CAP-1" := by decide +kernel
  exact ((followups_join_iff Sample.paypal Sample.recurly Sample.shopify).1 Sample.denied
    (Sample.refunded "CAP-1") _ (Sample.refundOf "CAP-1")
    (Sample.paypal.mapResourceInvoice Sample.denied.resource epochIso true) Sample.method "CAP-1"
    ⟨_, rfl, List.mem_singleton_self _⟩ ⟨_, rfl, rfl⟩
    ⟨_, hrefund, List.mem_singleton_self _⟩ (.inl ⟨rfl, rfl, rfl, hlink⟩)).2 rfl

end AX10M
