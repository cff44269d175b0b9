/-
  Refunds that webhooks report again and again: an order of WooCommerce with all its refunds so far,
  and a charge of Stripe with all that was refunded.

  The adapters have no memory.  The reversals of an order are what its refunds add up to, every
  time; those of a charge are its newest refund, or all that was refunded if the refunds are not
  listed.  `refundsAddUp_iff` says of which sequences of webhooks the reversals sum to what the last
  one reports.
-/
import AX10M.Logs.Totals
import AX10M.Poal.Stripe
import AX10M.Poal.WooCommerce
import Mathlib.Algebra.Order.BigOperators.Group.List

namespace AX10M

open Js Logs

/-- What an event takes back. -/
def reversedAmount (e : CanonicalEvent) : MinorUnits :=
  match e.body with
  | .paymentReversed p => p.amount
  | _ => 0

/-- What events take back. -/
def reversed (events : List CanonicalEvent) : MinorUnits := (events.map reversedAmount).sum

/-! ## Orders -/

/-- A webhook about an order that the adapter accepted, with its events. -/
structure OrderWebhook (adapter : WooCommerceAdapter) where
  topic : String
  order : WooOrder
  events : List CanonicalEvent
  aboutOrder : topic = "order.refunded" ∨ topic = "order.updated" ∨ topic = "order.created"
  accepted : adapter.ingestWebhook (some topic) ⟨true, some order⟩ = .ok events

/-- What an order reports as refunded: its refunds, or its total if it is refunded without any. -/
def WooOrder.refunded (order : WooOrder) : MinorUnits :=
  if 0 < WooCommerceAdapter.refundedMinor order.refunds then
    WooCommerceAdapter.refundedMinor order.refunds
  else if order.status = some "refunded" then max (WooCommerceAdapter.toMinorUnits order.total) 0
  else 0

/-- The webhooks of an order add up: after each of them the reversals sum to what it reports as
    refunded, one that reports no more than the last has no reversal, and a failed order is reported
    as failed. -/
structure OrderAddsUp {adapter : WooCommerceAdapter} (webhooks : List (OrderWebhook adapter)) :
    Prop where
  total : AddsUp (fun w => reversed w.events) (fun w => w.order.refunded) webhooks
  quiet : ∀ pre w, pre ++ [w] <+: webhooks →
    w.order.refunded = lastTotal (fun w => w.order.refunded) pre →
    ∀ e ∈ w.events, ∀ p, e.body ≠ .paymentReversed p
  failed : ∀ w ∈ webhooks, w.order.status = some "failed" →
    ∃ e p, w.events = [e] ∧ e.body = .invoiceFailed p

section

variable {adapter : WooCommerceAdapter} {order : WooOrder}

theorem refundedMinor_nonneg (refunds : List WooRefund) :
    0 ≤ WooCommerceAdapter.refundedMinor refunds := by
  refine List.sum_nonneg ?_
  intro x hx
  obtain ⟨r, -, rfl⟩ := List.mem_map.1 hx
  exact abs_nonneg _

theorem WooOrder.refunded_nonneg (order : WooOrder) : 0 ≤ order.refunded := by
  unfold refunded
  split_ifs with hlines
  · exact hlines.le
  · exact le_max_right _ _
  · exact le_rfl

/-- An order has a reversal if it reports something refunded, of that amount. -/
theorem mapRefund_cases (adapter : WooCommerceAdapter) (order : WooOrder) :
    (order.refunded = 0 → adapter.mapRefund order = none) ∧
      (0 < order.refunded → ∃ p, adapter.mapRefund order = some p ∧ p.amount = order.refunded) := by
  have hnonneg := refundedMinor_nonneg order.refunds
  unfold WooCommerceAdapter.mapRefund WooOrder.refunded
  by_cases hlines : 0 < WooCommerceAdapter.refundedMinor order.refunds
  · simp only [not_le.2 hlines, false_and, if_false, gt_iff_lt, hlines, if_true]
    constructor
    · intro h
      exact absurd h hlines.ne'
    · intro _
      exact ⟨_, rfl, rfl⟩
  · by_cases hstatus : order.status = some "refunded"
    · simp only [hstatus, ne_eq, not_true_eq_false, and_false, if_false, gt_iff_lt, hlines, if_true]
      by_cases htotal : 0 < WooCommerceAdapter.toMinorUnits order.total
      · rw [max_eq_left htotal.le, if_neg (not_le.2 htotal)]
        constructor
        · intro h
          exact absurd h htotal.ne'
        · intro _
          exact ⟨_, rfl, rfl⟩
      · rw [max_eq_right (not_lt.1 htotal), if_pos (not_lt.1 htotal)]
        constructor
        · intro _
          rfl
        · intro h
          exact absurd h (lt_irrefl 0)
    · simp only [not_lt.1 hlines, ne_eq, hstatus, not_false_eq_true, and_self, if_true, hlines,
        if_false]
      constructor
      · intro _
        trivial
      · intro h
        exact absurd h (lt_irrefl 0)

/-- An order that reports nothing refunded has no reversal. -/
theorem not_reversed_of_zero (h : order.refunded = 0) {body : EventBody}
    (hbody : adapter.orderBody order = some body) (p : ReversalPayload) :
    body ≠ .paymentReversed p := by
  rw [WooCommerceAdapter.orderBody, (mapRefund_cases adapter order).1 h] at hbody
  simp only at hbody
  split at hbody
  all_goals
    intro heq
    subst heq
    cases hbody

namespace OrderWebhook

variable (w : OrderWebhook adapter)

theorem events_eq : w.events = adapter.mapWebhook w.order w.topic := by
  have h := w.accepted
  unfold WooCommerceAdapter.ingestWebhook at h
  split_ifs at h
  exact (Except.ok.inj h).symm

/-- A webhook has one event if its order gives a body, with that body. -/
theorem events_cases : (adapter.orderBody w.order = none ∧ w.events = []) ∨
    ∃ e, adapter.orderBody w.order = some e.body ∧ w.events = [e] := by
  have hbody : adapter.body w.order w.topic = adapter.orderBody w.order := by
    rcases w.aboutOrder with h | h | h
    all_goals
      rw [h]
      rfl
  rw [w.events_eq, WooCommerceAdapter.mapWebhook, hbody]
  cases adapter.orderBody w.order with
  | none => exact .inl ⟨rfl, rfl⟩
  | some body => exact .inr ⟨_, rfl, rfl⟩

theorem quiet (h : w.order.refunded = 0) : ∀ e ∈ w.events, ∀ p, e.body ≠ .paymentReversed p := by
  intro e he
  rcases w.events_cases with ⟨-, hevents⟩ | ⟨e', hbody, hevents⟩
  · rw [hevents] at he
    cases he
  · rw [hevents] at he
    obtain rfl := List.mem_singleton.1 he
    exact not_reversed_of_zero h hbody

/-- The reversal of a webhook is all that its order reports. -/
theorem reversed_eq : reversed w.events = w.order.refunded := by
  rcases w.order.refunded_nonneg.eq_or_lt with hzero | hpos
  · rw [← hzero]
    refine List.sum_eq_zero ?_
    intro x hx
    obtain ⟨e, he, rfl⟩ := List.mem_map.1 hx
    have hquiet := w.quiet hzero.symm e he
    unfold reversedAmount
    split
    · next p hbody => exact absurd hbody (hquiet p)
    · rfl
  · obtain ⟨p, hrefund, hamount⟩ := (mapRefund_cases adapter w.order).2 hpos
    have horder : adapter.orderBody w.order = some (.paymentReversed p) := by
      rw [WooCommerceAdapter.orderBody, hrefund]
    rcases w.events_cases with ⟨hbody, -⟩ | ⟨e, hbody, hevents⟩
    · rw [horder] at hbody
      cases hbody
    · rw [horder] at hbody
      rw [hevents, reversed, List.map_singleton, List.sum_singleton, reversedAmount,
        ← Option.some.inj hbody]
      exact hamount

/-- A failed order is reported as failed if it reports nothing refunded. -/
theorem failed_iff (hstatus : w.order.status = some "failed") :
    (∃ e p, w.events = [e] ∧ e.body = .invoiceFailed p) ↔ w.order.refunded = 0 := by
  constructor
  · rintro ⟨e, p, hevents, hbody⟩
    have hreversed := w.reversed_eq
    rw [hevents, reversed, List.map_singleton, List.sum_singleton, reversedAmount, hbody]
      at hreversed
    exact hreversed.symm
  · intro hzero
    have horder : adapter.orderBody w.order = some (adapter.failureBody w.order) := by
      rw [WooCommerceAdapter.orderBody, (mapRefund_cases adapter w.order).1 hzero, hstatus]
      rfl
    rcases w.events_cases with ⟨hbody, -⟩ | ⟨e, hbody, hevents⟩
    · rw [horder] at hbody
      cases hbody
    · rw [horder] at hbody
      exact ⟨e, _, hevents, (Option.some.inj hbody).symm⟩

end OrderWebhook

/-- Of an order's webhooks, only the last may report something refunded, and only if the order has
    not failed. -/
theorem orderAddsUp_iff (webhooks : List (OrderWebhook adapter)) : OrderAddsUp webhooks ↔
    (∀ w ∈ webhooks.dropLast, w.order.refunded = 0) ∧
      ∀ w ∈ webhooks, w.order.status = some "failed" → w.order.refunded = 0 := by
  constructor
  · intro h
    refine ⟨?_, ?_⟩
    · intro w hw
      obtain ⟨pre, next, post, rfl⟩ := exists_next_of_mem_dropLast hw
      have hnext := addsUp_iff.1 h.total (pre ++ [w]) next ⟨post, by simp⟩
      rw [lastTotal_append, next.reversed_eq] at hnext
      linarith
    · intro w hw hstatus
      exact (w.failed_iff hstatus).1 (h.failed w hw hstatus)
  · rintro ⟨hearlier, hfailed⟩
    have hlast : ∀ pre w, pre ++ [w] <+: webhooks →
        lastTotal (fun w : OrderWebhook adapter => w.order.refunded) pre = 0 := by
      intro pre w hpre
      rcases List.eq_nil_or_concat pre with rfl | ⟨pre, last, rfl⟩
      · rfl
      · rw [List.concat_eq_append] at hpre ⊢
        rw [lastTotal_append]
        exact hearlier last (mem_dropLast_of_shorter hpre)
    refine ⟨addsUp_iff.2 ?_, ?_, ?_⟩
    · intro pre w hpre
      rw [hlast pre w hpre, zero_add, w.reversed_eq]
    · intro pre w hpre hsame
      rw [hlast pre w hpre] at hsame
      exact w.quiet hsame
    · intro w hw hstatus
      exact (w.failed_iff hstatus).2 (hfailed w hw hstatus)

end

/-! ## Charges -/

/-- A webhook about a charge that was refunded, which the adapter accepted, with its events. -/
structure RefundWebhook (adapter : StripeAdapter) where
  event : StripeEvent
  lookup : StripeLookup
  events : List CanonicalEvent
  isRefund : event.type = some "charge.refunded"
  accepted : adapter.ingestWebhook lookup ⟨true, some event⟩ = .ok events

/-- What a charge reports as refunded so far. -/
def StripeObject.refundedSoFar (obj : StripeObject) : MinorUnits := obj.amountRefunded.getD 0

/-- A charge goes on from what was reported refunded: it reports the newest of its refunds more, or,
    if none is listed with an amount, all that it reports is new; without an invoice it reports
    nothing more. -/
def StripeObject.Continues (before : MinorUnits) (obj : StripeObject) : Prop :=
  match truthy obj.invoice, obj.refunds.head?.bind StripeRefund.amount with
  | none, _ => obj.refundedSoFar = before
  | some _, some newest => obj.refundedSoFar = before + max newest 0
  | some _, none => obj.refundedSoFar = before + max obj.refundedSoFar 0

/-- The webhooks of a charge add up: after each of them the reversals sum to what it reports as
    refunded. -/
def ChargeAddsUp {adapter : StripeAdapter} (webhooks : List (RefundWebhook adapter)) : Prop :=
  AddsUp (fun w => reversed w.events) (fun w => w.event.object.refundedSoFar) webhooks

section

variable {adapter : StripeAdapter}

/-- The events of a charge that was refunded take back its newest refund, or all of them. -/
theorem reversed_charge (lookup : StripeLookup) {event : StripeEvent}
    (h : event.type = some "charge.refunded") :
    reversed (adapter.mapEvent lookup event).toList =
      if (truthy event.object.invoice).isSome then max event.object.refunded 0 else 0 := by
  have hbody : ∀ occurredAt, adapter.body event.object lookup event.type occurredAt =
      StripeAdapter.mapRefund event.object := by
    intro occurredAt
    rw [h]
    rfl
  rw [StripeAdapter.mapEvent, hbody, StripeAdapter.mapRefund]
  cases truthy event.object.invoice with
  | none => rfl
  | some invoice =>
    by_cases hle : event.object.refunded ≤ 0
    · simp only [bind, Option.bind, hle, if_true, Option.map_none, Option.toList_none,
        Option.isSome_some, max_eq_right hle]
      rfl
    · simp only [bind, Option.bind, hle, if_false, Option.map_some, Option.toList_some,
        Option.isSome_some, if_true, max_eq_left (not_le.1 hle).le]
      exact add_zero _

namespace RefundWebhook

variable (w : RefundWebhook adapter)

theorem reversed_eq : reversed w.events =
    if (truthy w.event.object.invoice).isSome then max w.event.object.refunded 0 else 0 := by
  have h := w.accepted
  simp only [StripeAdapter.ingestWebhook, Bool.not_true, Bool.false_eq_true, if_false] at h
  rw [← Except.ok.inj h]
  exact reversed_charge w.lookup w.isRefund

/-- A charge goes on from what was reported if it reports what its webhook takes back more. -/
theorem continues_iff (before : MinorUnits) : w.event.object.Continues before ↔
    w.event.object.refundedSoFar = before + reversed w.events := by
  rw [w.reversed_eq, StripeObject.Continues, StripeObject.refunded]
  cases truthy w.event.object.invoice with
  | none =>
    show _ ↔ w.event.object.refundedSoFar = before + 0
    rw [add_zero]
  | some invoice =>
    cases w.event.object.refunds.head?.bind StripeRefund.amount with
    | none => exact Iff.rfl
    | some newest => exact Iff.rfl

end RefundWebhook

/-- The webhooks of a charge add up if each goes on from the one before. -/
theorem chargeAddsUp_iff (webhooks : List (RefundWebhook adapter)) : ChargeAddsUp webhooks ↔
    ∀ pre w, pre ++ [w] <+: webhooks → w.event.object.Continues
      (lastTotal (fun w : RefundWebhook adapter => w.event.object.refundedSoFar) pre) := by
  rw [ChargeAddsUp, addsUp_iff]
  constructor
  · intro h pre w hpre
    exact (w.continues_iff _).2 (h pre w hpre)
  · intro h pre w hpre
    exact (w.continues_iff _).1 (h pre w hpre)

end

/-! ## The law -/

/-- The webhooks of an order add up if and only if all before the last report nothing refunded, and
    those of a failed order neither; those of a charge if and only if each goes on from the one
    before. -/
theorem refundsAddUp_iff (woo : WooCommerceAdapter) (orders : List (OrderWebhook woo))
    (stripe : StripeAdapter) (charges : List (RefundWebhook stripe)) :
    (OrderAddsUp orders ↔ (∀ w ∈ orders.dropLast, w.order.refunded = 0) ∧
      ∀ w ∈ orders, w.order.status = some "failed" → w.order.refunded = 0) ∧
    (ChargeAddsUp charges ↔ ∀ pre w, pre ++ [w] <+: charges → w.event.object.Continues
      (lastTotal (fun w : RefundWebhook stripe => w.event.object.refundedSoFar) pre)) :=
  ⟨orderAddsUp_iff orders, chargeAddsUp_iff charges⟩

/-! ## Webhooks that do not add up -/

namespace Sample

def refundingWoo : WooCommerceAdapter := ⟨"m1", true, fun _ => ""⟩

/-- An order with a refund of ten. -/
def refundedOrder (status : String) : WooOrder where
  id := some (.text "7")
  status := some status
  total := some "50.00"
  refunds := [⟨none, some "-10.00"⟩]

def orderUpdated (status : String) : OrderWebhook refundingWoo where
  topic := "order.updated"
  order := refundedOrder status
  events := refundingWoo.mapWebhook (refundedOrder status) "order.updated"
  aboutOrder := .inr (.inl rfl)
  accepted := rfl

theorem refundedOrder_refunded (status : String) : (refundedOrder status).refunded = 1000 := by
  have hlines : WooCommerceAdapter.refundedMinor [⟨none, some "-10.00"⟩] = 1000 := by decide +kernel
  simp only [WooOrder.refunded, refundedOrder, hlines, Nat.ofNat_pos, if_true]

def refundingStripe : StripeAdapter := ⟨"m1"⟩

/-- A charge that was refunded, whose refunds are not listed. -/
def refundedCharge (amount : ℚ) : StripeEvent where
  id := some "evt_1"
  type := some "charge.refunded"
  object := { id := "ch_1", invoice := some "in_1", amountRefunded := some amount }

def chargeRefunded (amount : ℚ) : RefundWebhook refundingStripe where
  event := refundedCharge amount
  lookup := fun _ => .ok none
  events := (refundingStripe.mapEvent (fun _ => .ok none) (refundedCharge amount)).toList
  isRefund := rfl
  accepted := rfl

end Sample

/-- An order with one refund that is updated twice is reversed twice; one that failed with a refund
    is not reported as failed; and a charge refunded 5 and then 3 is reversed by 5 and then 8. -/
theorem refundsAddUp_fails :
    ¬ OrderAddsUp [Sample.orderUpdated "processing", Sample.orderUpdated "processing"] ∧
      ¬ OrderAddsUp [Sample.orderUpdated "failed"] ∧
      ¬ ChargeAddsUp [Sample.chargeRefunded 500, Sample.chargeRefunded 800] := by
  refine ⟨?_, ?_, ?_⟩
  · intro h
    have hfirst := ((orderAddsUp_iff _).1 h).1 _ (List.mem_singleton_self _)
    rw [Sample.orderUpdated, Sample.refundedOrder_refunded] at hfirst
    exact absurd hfirst (by decide)
  · intro h
    have hfailed := ((orderAddsUp_iff _).1 h).2 _ (List.mem_singleton_self _) rfl
    rw [Sample.orderUpdated, Sample.refundedOrder_refunded] at hfailed
    exact absurd hfailed (by decide)
  · intro h
    have hsecond := (chargeAddsUp_iff _).1 h [Sample.chargeRefunded 500] _ (List.prefix_refl _)
    exact absurd hsecond (show ¬ (800 : ℚ) = 500 + max 800 0 by norm_num)

end AX10M
