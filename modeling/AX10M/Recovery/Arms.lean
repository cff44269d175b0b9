/-
  The arms of a process: who is acted on.

  The ledger records the arm of the first failure of an invoice id, but every failure
  is acted on by the arm of its own unit.  Control is left alone, arms are kept, and
  assignments come first, exactly if each treated failure follows a first failure of its
  invoice id that is of the same merchant and treated too (`arms_kept_iff`).
-/
import AX10M.Billing.Observations
import AX10M.Poal.Adyen
import AX10M.Poal.PayPal
import AX10M.Recovery.Cases

namespace AX10M

open Js Effects Logs

/-- The entries are about one invoice of one merchant. -/
def SameInvoice (x y : LedgerEntry) : Prop :=
  x.merchantId = y.merchantId ∧ x.field "invoiceId" = y.field "invoiceId"

/-- Control is left alone, customers keep their arm, and assignments come before plans. -/
structure ArmsKept (cases : List FailedCase) (ledger : List LedgerEntry)
    (dispatched : List DurableRecoveryRequest) : Prop where
  unplanned : ∀ x ∈ ledger, x.type = .holdoutAssigned → bucketOf x = some .control →
    ∀ y ∈ ledger, y.type = .recoveryPlanned → ¬ SameInvoice x y
  undispatched : ∀ x ∈ ledger, x.type = .holdoutAssigned → bucketOf x = some .control →
    ∀ r ∈ dispatched, ¬ (x.merchantId = r.attempt.invoice.merchantId ∧
      x.field "invoiceId" = some (.str r.attempt.invoice.id))
  arm : ∀ c ∈ cases, ∀ c' ∈ cases, c.invoice.merchantId = c'.invoice.merchantId →
    c.invoice.customerId = c'.invoice.customerId → c.invoice.customerId ≠ "" →
    c.assignment.bucket = c'.assignment.bucket
  customer : ∀ x ∈ ledger, x.type = .holdoutAssigned → ∀ y ∈ ledger, y.type = .holdoutAssigned →
    x.merchantId = y.merchantId → ∀ customerId, customerId ≠ "" →
    x.field "customerId" = some (.str customerId) → y.field "customerId" = some (.str customerId) →
    bucketOf x = bucketOf y
  assigned : ∀ before y after, ledger = before ++ y :: after → y.type = .recoveryPlanned →
    ∃ x ∈ before, x.type = .holdoutAssigned ∧ SameInvoice x y

/-- The invoice of a failure. -/
def failedInvoice (event : CanonicalEvent) : Option Invoice :=
  match event.body with
  | .invoiceFailed payload => payload.invoice
  | _ => none

section

variable (s : RecoveryCaseService)

/-- The unit of an invoice, its customer or for a guest the invoice itself, is in treatment: its
    position is not below the control fraction. -/
def Treated (invoice : Invoice) : Prop :=
  (0 ≤ s.holdoutConfig.controlFraction ∧ s.holdoutConfig.controlFraction < 1) ∧
    s.holdoutConfig.controlFraction ≤ hashToUnitInterval s.sha256
      (bucketMaterial ⟨invoice.merchantId, some invoice.customerId, invoice.id,
        deriveStratum invoice none⟩ s.holdoutConfig)

/-- Each treated failure follows (or is) a first failure of its invoice id that is of the same
    merchant and treated too. -/
def FirstsAgree (events : List CanonicalEvent) : Prop :=
  ∀ e ∈ events, ∀ invoice, failedInvoice e = some invoice → Treated s invoice →
    ∃ first, (events.filterMap failedInvoice).find? (fun i => i.id = invoice.id) = some first ∧
      first.merchantId = invoice.merchantId ∧ Treated s first

/-! ## Assignments -/

variable {s} {invoice : Invoice} {decline : Option DeclineEvent} {a : Assignment}

/-- What an assignment says. -/
theorem assignmentOf_ok (h : s.assignmentOf invoice decline = .ok a) :
    (a.bucket = .treatment ↔ Treated s invoice) ∧
      a.stratumKey = stratumKey (deriveStratum invoice decline) := by
  unfold RecoveryCaseService.assignmentOf assign at h
  by_cases hr : s.holdoutConfig.controlFraction < 0 ∨ s.holdoutConfig.controlFraction ≥ 1
  · rw [if_pos hr] at h
    cases h
  rw [if_neg hr] at h
  obtain rfl := Except.ok.inj h
  refine ⟨?_, rfl⟩
  have hrange : 0 ≤ s.holdoutConfig.controlFraction ∧ s.holdoutConfig.controlFraction < 1 := by
    simpa [not_or] using hr
  unfold Treated
  rw [and_iff_right hrange, ← not_lt]
  by_cases hp : hashToUnitInterval s.sha256 (bucketMaterial ⟨invoice.merchantId,
      some invoice.customerId, invoice.id, deriveStratum invoice none⟩ s.holdoutConfig) <
      s.holdoutConfig.controlFraction
  · refine iff_of_false (fun htr => ?_) (not_not_intro hp)
    cases htr.symm.trans (if_pos hp)
  · exact iff_of_true (if_neg hp) hp

/-- With a control fraction in range, failures are assigned. -/
theorem exists_assignmentOf
    (h : 0 ≤ s.holdoutConfig.controlFraction ∧ s.holdoutConfig.controlFraction < 1)
    (invoice : Invoice) (decline : Option DeclineEvent) :
    ∃ a, s.assignmentOf invoice decline = .ok a := by
  have hr : ¬ (s.holdoutConfig.controlFraction < 0 ∨ s.holdoutConfig.controlFraction ≥ 1) := by
    simpa [not_or] using h
  exact ⟨_, if_neg hr⟩

/-- The arm depends on the merchant and the customer, and for a guest on the invoice. -/
theorem treated_congr {invoice invoice' : Invoice}
    (hm : invoice.merchantId = invoice'.merchantId) (hc : invoice.customerId = invoice'.customerId)
    (hid : invoice.customerId ≠ "" ∨ invoice.id = invoice'.id) :
    Treated s invoice ↔ Treated s invoice' := by
  have hmat : ∀ st st' : Stratum,
      bucketMaterial ⟨invoice.merchantId, some invoice.customerId, invoice.id, st⟩
        s.holdoutConfig =
      bucketMaterial ⟨invoice'.merchantId, some invoice'.customerId, invoice'.id, st'⟩
        s.holdoutConfig := by
    intro st st'
    rcases hid with hne | hid
    · have hne' : invoice'.customerId ≠ "" := hc ▸ hne
      simp [bucketMaterial, isGuest, hne', hm, hc]
    · simp [bucketMaterial, isGuest, hm, hc, hid]
  unfold Treated
  rw [hmat _ (deriveStratum invoice' none)]

/-! ## Cases -/

variable {events : List CanonicalEvent} {c : FailedCase}

theorem mem_casesOf : c ∈ s.casesOf events ↔ ∃ e ∈ events, s.failedCase e = some c :=
  List.mem_filterMap

theorem bucket_treated (h : c ∈ s.casesOf events) : c.treated ↔ Treated s c.invoice := by
  obtain ⟨e, -, hc⟩ := mem_casesOf.1 h
  obtain ⟨-, -, ha, -⟩ := s.failedCase_eq_some_iff.1 hc
  rw [← (assignmentOf_ok ha).1]
  simp [FailedCase.treated]

theorem failedInvoice_of_case {e : CanonicalEvent} (h : s.failedCase e = some c) :
    failedInvoice e = some c.invoice := by
  obtain ⟨hb, hi, -, -⟩ := s.failedCase_eq_some_iff.1 h
  simp only [failedInvoice, hb, hi]

/-- The failure of a treated invoice is a case. -/
theorem exists_case {e : CanonicalEvent} (h : failedInvoice e = some invoice)
    (ht : Treated s invoice) : ∃ c, s.failedCase e = some c ∧ c.invoice = invoice := by
  unfold failedInvoice at h
  split at h
  next payload hb =>
    obtain ⟨a, ha⟩ := exists_assignmentOf ht.1 invoice payload.decline
    exact ⟨⟨e.occurredAt, payload, invoice, a⟩, s.failedCase_eq_some_iff.2 ⟨hb, h, ha, rfl⟩, rfl⟩
  next => cases h

/-- In range, the failures of a run are the invoices of its cases. -/
theorem failedInvoices_eq (ht : Treated s invoice) (events : List CanonicalEvent) :
    events.filterMap failedInvoice = (s.casesOf events).map FailedCase.invoice := by
  rw [RecoveryCaseService.casesOf, List.map_filterMap]
  refine List.filterMap_congr fun e _ => ?_
  cases hc : s.failedCase e with
  | some c => exact failedInvoice_of_case hc
  | none =>
    rcases s.failedCase_eq_none hc with hq | ⟨p, i, m, -, -, ha⟩
    · unfold failedInvoice
      split
      next payload hb =>
        cases hi : payload.invoice with
        | none => rfl
        | some i => exact absurd hi (hq payload i hb)
      next => rfl
    · unfold RecoveryCaseService.assignmentOf assign at ha
      have hr : ¬ (s.holdoutConfig.controlFraction < 0 ∨ s.holdoutConfig.controlFraction ≥ 1) := by
        simpa [not_or] using ht.1
      rw [if_neg hr] at ha
      cases ha

/-- The condition, said of cases. -/
theorem firstsAgree_iff : FirstsAgree s events ↔ ∀ c ∈ s.casesOf events, c.treated →
    ∃ o ∈ firsts FailedCase.invoiceId (s.casesOf events), o.invoiceId = c.invoiceId ∧
      o.invoice.merchantId = c.invoice.merchantId ∧ o.treated := by
  have hfind : ∀ {invoice first : Invoice}, Treated s invoice →
      ((events.filterMap failedInvoice).find? (fun i => i.id = invoice.id) = some first ↔
        ∃ o, (s.casesOf events).find? (fun c => c.invoiceId = invoice.id) = some o ∧
          o.invoice = first) := by
    intro invoice first ht
    rw [failedInvoices_eq ht, List.find?_map, Option.map_eq_some_iff]
    rfl
  constructor
  · intro h c hc htr
    have hti := (bucket_treated hc).1 htr
    obtain ⟨e, he, hec⟩ := mem_casesOf.1 hc
    obtain ⟨first, hf, hm, htf⟩ := h e he c.invoice (failedInvoice_of_case hec) hti
    obtain ⟨o, ho, rfl⟩ := (hfind hti).1 hf
    have hid : o.invoiceId = c.invoice.id := by simpa using List.find?_some ho
    have hof : o ∈ firsts FailedCase.invoiceId (s.casesOf events) := by
      rw [mem_firsts_iff, hid]
      exact ho
    exact ⟨o, hof, hid, hm, (bucket_treated (mem_of_mem_firsts hof)).2 htf⟩
  · intro h e he invoice hi ht
    obtain ⟨c, hec, rfl⟩ := exists_case hi ht
    have hc : c ∈ s.casesOf events := mem_casesOf.2 ⟨e, he, hec⟩
    obtain ⟨o, ho, hid, hm, hto⟩ := h c hc ((bucket_treated hc).2 ht)
    have hof := mem_firsts_iff.1 ho
    rw [hid] at hof
    exact ⟨o.invoice, (hfind ht).2 ⟨o, hof, rfl⟩, hm, (bucket_treated (mem_of_mem_firsts ho)).1 hto⟩

theorem bucketOf_entry (c : FailedCase) : bucketOf c.entry = some c.assignment.bucket := by
  unfold bucketOf
  rw [c.entry_bucket]
  cases c.assignment.bucket <;> rfl

/-- A case is in one of the arms. -/
theorem FailedCase.bucket_control (c : FailedCase) : ¬ c.treated ↔ bucketOf c.entry = some .control := by
  rw [bucketOf_entry, FailedCase.treated]
  cases c.assignment.bucket <;> simp

end

section

variable {σ : Type} {s : RecoveryCaseService} {events : List CanonicalEvent} {w : World σ}

/-- The invoice of a dispatch is that of a treated case. -/
theorem Traced.exists_dispatched {cases : List FailedCase} (h : Traced s cases w)
    {r : DurableRecoveryRequest} (hr : r ∈ w.dispatched) :
    ∃ c ∈ cases, c.treated ∧ c.invoice = r.attempt.invoice := by
  rw [h.dispatched] at hr
  obtain ⟨c, hc, hd⟩ := List.mem_filterMap.1 hr
  unfold RecoveryCaseService.dispatchIn at hd
  split at hd
  next method hb hm =>
    split_ifs at hd
    obtain rfl := Option.some.inj hd
    exact ⟨c, hc, by simp [FailedCase.treated, hb], rfl⟩
  next => cases hd

/-- Where the arms are kept, each treated case follows a first case that agrees. -/
theorem ArmsKept.firstsAgree (ht : Traced s (s.casesOf events) w)
    (h : ArmsKept (s.casesOf events) w.ledger w.dispatched) : FirstsAgree s events := by
  refine firstsAgree_iff.2 fun c hc htr => ?_
  obtain ⟨y, hy, hp⟩ := ht.exists_plan s hc htr
  obtain ⟨before, after, hl⟩ := List.append_of_mem hy
  obtain ⟨x, hx, htype, hsame⟩ := h.assigned before y after hl hp.type
  have hxl : x ∈ w.ledger := by
    rw [hl]
    exact List.mem_append_left _ hx
  obtain ⟨o, ho, rfl⟩ := (ht.assigned_iff s).1 ⟨hxl, htype⟩
  refine ⟨o, ho, ?_, hsame.1.trans hp.merchantId, ?_⟩
  · have hid := hsame.2
    rw [hp.invoiceId, o.entry_invoiceId] at hid
    have hid' : o.invoice.id = c.invoice.id := by simpa using hid
    exact hid'
  · by_contra hctl
    exact h.unplanned _ hxl htype (o.bucket_control.1 hctl) y hy hp.type hsame

/-- A first case agrees with the treated cases of its invoice id. -/
theorem FirstsAgree.entry (h : FirstsAgree s events) {o c : FailedCase}
    (ho : o ∈ firsts FailedCase.invoiceId (s.casesOf events)) (hc : c ∈ s.casesOf events)
    (htr : c.treated) (hid : o.invoice.id = c.invoice.id) :
    o.invoice.merchantId = c.invoice.merchantId ∧ o.treated := by
  obtain ⟨o', ho', hid', hm, hto⟩ := firstsAgree_iff.1 h c hc htr
  obtain rfl := eq_of_mem_firsts ho' ho (hid'.trans hid.symm)
  exact ⟨hm, hto⟩

/-- The cases of an identified customer are in one arm. -/
theorem bucket_customer {c c' : FailedCase} (hc : c ∈ s.casesOf events)
    (hc' : c' ∈ s.casesOf events) (hm : c.invoice.merchantId = c'.invoice.merchantId)
    (hcu : c.invoice.customerId = c'.invoice.customerId) (hne : c.invoice.customerId ≠ "") :
    c.assignment.bucket = c'.assignment.bucket := by
  have htr : c.treated ↔ c'.treated := by
    rw [bucket_treated hc, bucket_treated hc']
    exact treated_congr hm hcu (.inl hne)
  unfold FailedCase.treated at htr
  cases hb : c.assignment.bucket <;> cases hb' : c'.assignment.bucket <;> simp_all

/-- Where each treated case follows a first case that agrees, the arms are kept. -/
theorem FirstsAgree.armsKept (ht : Traced s (s.casesOf events) w) (h : FirstsAgree s events) :
    ArmsKept (s.casesOf events) w.ledger w.dispatched where
  unplanned x hx htype hctl y hy hplan hsame := by
    obtain ⟨o, ho, rfl⟩ := (ht.assigned_iff s).1 ⟨hx, htype⟩
    obtain ⟨c, hc, htr, hp⟩ := ht.exists_treated s hy hplan
    have hid := hsame.2
    rw [hp.invoiceId, o.entry_invoiceId] at hid
    exact o.bucket_control.2 hctl (h.entry ho hc htr (by simpa using hid)).2
  undispatched x hx htype hctl r hr hsame := by
    obtain ⟨o, ho, rfl⟩ := (ht.assigned_iff s).1 ⟨hx, htype⟩
    obtain ⟨c, hc, htr, hci⟩ := ht.exists_dispatched hr
    have hid := hsame.2
    rw [← hci, o.entry_invoiceId] at hid
    exact o.bucket_control.2 hctl (h.entry ho hc htr (by simpa using hid)).2
  arm c hc c' hc' hm hcu hne := bucket_customer hc hc' hm hcu hne
  customer x hx htx y hy hty hm customerId hne hcx hcy := by
    obtain ⟨o, ho, rfl⟩ := (ht.assigned_iff s).1 ⟨hx, htx⟩
    obtain ⟨o', ho', rfl⟩ := (ht.assigned_iff s).1 ⟨hy, hty⟩
    rw [o.entry_customerId] at hcx
    rw [o'.entry_customerId] at hcy
    have hc : o.invoice.customerId = customerId := by simpa using hcx
    have hc' : o'.invoice.customerId = customerId := by simpa using hcy
    rw [bucketOf_entry, bucketOf_entry, bucket_customer (mem_of_mem_firsts ho)
      (mem_of_mem_firsts ho') hm (hc.trans hc'.symm) (hc.symm ▸ hne)]
  assigned before y after hl hplan := by
    obtain ⟨x, hx, htype, hid⟩ := ht.order before y after hl hplan
    have hxl : x ∈ w.ledger := by
      rw [hl]
      exact List.mem_append_left _ hx
    have hyl : y ∈ w.ledger := by simp [hl]
    obtain ⟨o, ho, rfl⟩ := (ht.assigned_iff s).1 ⟨hxl, htype⟩
    obtain ⟨c, hc, htr, hp⟩ := ht.exists_treated s hyl hplan
    refine ⟨_, hx, htype, Eq.trans ?_ hp.merchantId.symm, hid⟩
    rw [hp.invoiceId, o.entry_invoiceId] at hid
    exact (h.entry ho hc htr (by simpa using hid)).1

/-- After any events, handled one after the other: control is left alone, customers keep their
    arms and assignments come before plans, exactly if each treated failure follows a first
    failure of its invoice id that is of the same merchant and treated too. -/
theorem arms_kept_iff (s : RecoveryCaseService) (env : Env σ) (policy : σ) (clock : ℕ → ℤ)
    (events : List (CanonicalEvent × Option String)) :
    ArmsKept (s.casesOf (events.map Prod.fst))
        (serveAll s env (World.init policy clock) (events.map fun e => .webhook e.1 e.2)).ledger
        (serveAll s env (World.init policy clock) (events.map fun e => .webhook e.1 e.2)).dispatched ↔
      FirstsAgree s (events.map Prod.fst) :=
  ⟨fun h => h.firstsAgree (traced_run s env policy clock events),
    fun h => h.armsKept (traced_run s env policy clock events)⟩

end

namespace Sample

/-- SHA-256 on the units of two PayPal payers, and of one guest invoice at two merchants. -/
def unitSha256 : Digest := fun text =>
  ([("ax10m-holdout-v1:mrc_1:ax10m_cus_PAYER3",
      "111ae70965b6e1dba3d9eec11fad5fe050f5149893cd39a77841990179a79c4f"),
    ("ax10m-holdout-v1:mrc_1:ax10m_cus_PAYER1",
      "ca25c95613deda015146290f9acff030365bf2a1d7a31abfc0ead9d5f423977c"),
    ("ax10m-holdout-v1:mrc_1:guest:ax10m_inv_1001",
      "5552fa2416a086f18bd9d56b92588ee12efb3fb67ada41fb11566d112347a9d7"),
    ("ax10m-holdout-v1:mrc_2:guest:ax10m_inv_1001",
      "6724f8d531a19d280f37514f7eeafb7f0d9757023cc000467de66aedceaa9406")].lookup text).getD ""

def unitService : RecoveryCaseService := { sha256 := unitSha256 }

/-- A payer's capture for the invoice 1001 is denied. -/
def deniedPayer (eventId payerId : String) : PpWebhook where
  id := some eventId
  eventType := some "PAYMENT.CAPTURE.DENIED"
  resource := {
    id := some ("CAP-" ++ eventId)
    invoiceId := some "1001"
    payerId := some payerId
    amount := some ⟨some "149.00", some "USD"⟩ }

/-- Two payers are denied on one invoice of a merchant. -/
def twoPayers : List (CanonicalEvent × Option String) :=
  let adapter : PayPalAdapter := { merchantId := "mrc_1" }
  (adapter.mapWebhook (deniedPayer "WH-1" "PAYER3") ++
    adapter.mapWebhook (deniedPayer "WH-2" "PAYER1")).map fun e => (e, some "paypal")

/-- A refused authorisation of the order 1001. -/
def refused : AdyenNotificationItem where
  eventCode := some "AUTHORISATION"
  merchantReference := some "1001"
  success := some "false"

/-- Two merchants have a refused order of one number. -/
def twoMerchants : List (CanonicalEvent × Option String) :=
  ["mrc_1", "mrc_2"].map fun m => ((AdyenAdapter.mk m none).mapAuthorisation refused, some "adyen")

end Sample

/-- An invoice whose first payer is in control is planned for its second payer, who is not; an
    order of a second merchant with the number of the first one's is planned without an
    assignment. -/
theorem arms_kept_fails :
    let run := fun events : List (CanonicalEvent × Option String) =>
      serveAll Sample.unitService Sample.env Sample.world (events.map fun e => .webhook e.1 e.2)
    ¬ ArmsKept (Sample.unitService.casesOf (Sample.twoPayers.map Prod.fst))
        (run Sample.twoPayers).ledger (run Sample.twoPayers).dispatched ∧
      ¬ ArmsKept (Sample.unitService.casesOf (Sample.twoMerchants.map Prod.fst))
        (run Sample.twoMerchants).ledger (run Sample.twoMerchants).dispatched := by
  intro run
  constructor
  · intro h
    have hx : ∃ x ∈ (run Sample.twoPayers).ledger, x.type = .holdoutAssigned ∧
        bucketOf x = some .control ∧ x.merchantId = "mrc_1" ∧ x.isFor "ax10m_inv_1001" := by
      decide +kernel
    have hy : ∃ y ∈ (run Sample.twoPayers).ledger, y.type = .recoveryPlanned ∧
        y.merchantId = "mrc_1" ∧ y.isFor "ax10m_inv_1001" := by
      decide +kernel
    obtain ⟨x, hx, htx, hctl, hmx, hix⟩ := hx
    obtain ⟨y, hy, hty, hmy, hiy⟩ := hy
    refine h.unplanned x hx htx hctl y hy hty ⟨hmx.trans hmy.symm, ?_⟩
    rw [(x.isFor_iff _).1 hix, (y.isFor_iff _).1 hiy]
  · intro h
    have hx : ∀ x ∈ (run Sample.twoMerchants).ledger, x.type = .holdoutAssigned →
        x.merchantId = "mrc_1" := by
      decide +kernel
    have hy : ∃ y ∈ (run Sample.twoMerchants).ledger, y.type = .recoveryPlanned ∧
        y.merchantId = "mrc_2" := by
      decide +kernel
    obtain ⟨y, hy, hty, hmy⟩ := hy
    obtain ⟨before, after, hl⟩ := List.append_of_mem hy
    obtain ⟨x, hxb, htx, hsame, -⟩ := h.assigned before y after hl hty
    have hxl : x ∈ (run Sample.twoMerchants).ledger := by
      rw [hl]
      exact List.mem_append_left _ hxb
    have hm := (hx x hxl htx).symm.trans (hsame.trans hmy)
    exact absurd hm (by decide)

end AX10M
