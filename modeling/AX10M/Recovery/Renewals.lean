/-
  Failed renewals of one subscription.

  Braintree and Maxio name an invoice after its subscription, so the failures of all its billing
  cycles are failures of one invoice: only the first one opens a case, and a charge of a later
  cycle has the key of the charge of the first cycle with its method and number
  (`renewals_collide`).
-/
import AX10M.Poal.Braintree
import AX10M.Poal.Maxio
import AX10M.Recovery.Asked
import AX10M.Recovery.Ingest
import AX10M.Recovery.Opening

namespace AX10M

open Js Effects

/-! ## A second failure of an invoice -/

section

variable {σ : Type} (s : RecoveryCaseService) (env : Env σ)

/-- Opened invoices stay opened. -/
theorem opened_mono {α : Type} (p : Async α) (w : World σ) {i : String}
    (hi : i ∈ w.openedInvoices) : i ∈ (p.exec (World.handle env) w).2.openedInvoices := by
  refine Prog.exec_inv (fun w : World σ => i ∈ w.openedInvoices) ?_ (Prog.uses_true p) hi
  intro o w _ hi
  cases o with
  | openedInvoicesAdd j => exact List.mem_insert_of_mem hi
  | attemptCharge a inv m k =>
    simp only [World.handle]
    split <;> exact hi
  | _ => exact hi

theorem serveAll_opened_mono (w : World σ) (rs : List Request) {i : String}
    (hi : i ∈ w.openedInvoices) : i ∈ (serveAll s env w rs).openedInvoices :=
  serveAll_inv s env (P := fun _ => True) (I := fun w => i ∈ w.openedInvoices)
    (fun w r _ hi => opened_mono env (s.program r) w hi) (fun _ _ => trivial) hi

/-- The fraction of the control arm is a range error. -/
def RangeError : Prop := s.holdoutConfig.controlFraction < 0 ∨ s.holdoutConfig.controlFraction ≥ 1

variable {e e' : CanonicalEvent} {invoice invoice' : Invoice}

/-- What serving a failure does: it opens the case, and plans and dispatches it. -/
theorem serve_fails (h : Fails e invoice) (pid : Option String) :
    ∃ (o : Opening) (rest : Bucket → Async Unit), o.invoice = invoice ∧
      (∀ bucket, (rest bucket).Uses (CaseOp s invoice [.recoveryPlanned] none)) ∧
      ∀ w, serve s env w (.webhook e pid) =
        (((s.openCase o.invoice o.stratum o.occurredAt).bind rest).exec (World.handle env) w).2 := by
  obtain ⟨payload, hb, hi⟩ := h
  obtain ⟨rest, heq, huses⟩ := s.handleFailure_eq e payload invoice
  refine ⟨⟨invoice, deriveStratum invoice payload.decline, e.occurredAt⟩, rest, rfl, huses, ?_⟩
  intro w
  simp only [serve, RecoveryCaseService.program, RecoveryCaseService.handleEvent, hb, hi, heq]

/-- A failure opens its invoice, unless there is a range error. -/
theorem opened_of_fails (h : Fails e invoice) (hr : ¬ RangeError s) (pid : Option String)
    (w : World σ) : invoice.id ∈ (serve s env w (.webhook e pid)).openedInvoices := by
  obtain ⟨o, rest, rfl, -, hs⟩ := serve_fails s env h pid
  obtain ⟨a, ha⟩ : ∃ a, assign s.sha256 o.input s.holdoutConfig = .ok a := ⟨_, if_neg hr⟩
  have hopen := openCase_exec s env o true w
  rw [faulty_true, ha] at hopen
  rw [hs]
  by_cases ho : o.invoice.id ∈ w.openedInvoices
  · exact opened_mono env _ w ho
  · simp only [if_neg ho, if_true] at hopen
    rw [Prog.exec_bind_of hopen]
    exact opened_mono env _ _ List.mem_insert_self

/-- A failure of an invoice that is opened is given no assignment. -/
theorem assignments_of_fails (h : Fails e invoice) (pid : Option String) {w : World σ}
    (ho : invoice.id ∈ w.openedInvoices ∨ RangeError s) (i : String) :
    assignments (serve s env w (.webhook e pid)).ledger i = assignments w.ledger i := by
  obtain ⟨o, rest, rfl, huses, hs⟩ := serve_fails s env h pid
  have hopen := openCase_exec s env o true w
  rw [faulty_true] at hopen
  rw [hs, Prog.exec_bind]
  have hrest : ∀ bucket, assignments ((rest bucket).exec (World.handle env) w).2.ledger i =
      assignments w.ledger i := by
    intro bucket
    refine Prog.exec_frame (fun w : World σ => assignments w.ledger i) ?_ (huses bucket) w
    intro op w hop
    cases op with
    | ledgerAppend x =>
      obtain ⟨-, -, ht, -⟩ := hop
      obtain ht : x.type = .recoveryPlanned := by simpa using ht
      simp [World.handle, assignments, ht]
    | attemptCharge a inv m k =>
      obtain ⟨n, hn, -⟩ := hop
      simp at hn
    | _ => rfl
  by_cases hr : RangeError s
  · obtain ⟨m, hm⟩ : ∃ m, assign s.sha256 o.input s.holdoutConfig = .error m := ⟨_, if_pos hr⟩
    rw [hopen, hm]
  · obtain ⟨a, ha⟩ : ∃ a, assign s.sha256 o.input s.holdoutConfig = .ok a := ⟨_, if_neg hr⟩
    rw [hopen, ha]
    simp only [if_pos (ho.resolve_right hr)]
    exact hrest a.bucket

/-- A later failure of an invoice of this process is given no assignment. -/
theorem assignments_of_fails_again (h : Fails e invoice) (h' : Fails e' invoice')
    (hid : invoice'.id = invoice.id) (pid pid' : Option String) (w : World σ)
    (between : List Request) (i : String) :
    let v := serveAll s env w (.webhook e pid :: between)
    assignments (serve s env v (.webhook e' pid')).ledger i = assignments v.ledger i := by
  refine assignments_of_fails s env h' pid' ?_ i
  by_cases hr : RangeError s
  · exact .inr hr
  · rw [hid]
    exact .inl (serveAll_opened_mono s env _ between (opened_of_fails s env h hr pid w))

end

/-! ## The keys of an invoice's charges -/

section

variable {σ : Type} {s : RecoveryCaseService} {env : Env σ}

/-- A charge that an execution asks for has the key of its invoice, method and attempt. -/
theorem asked_key {w : World σ} {adapter : ProcessorAdapter} {p : ExecuteParams} {a : AskedCharge}
    (ha : a ∈ (s.executeRecovery adapter p).observed (World.handle env) askedCharge w) :
    a.key = s.chargeKey p.invoice a.method p.attemptNumber := by
  obtain ⟨⟨o, r, v⟩, he, hask⟩ := List.mem_filterMap.1 ha
  have := (s.executeRecovery_uses adapter p).of_mem_trace he
  cases o with
  | attemptCharge adapter' i m k =>
    obtain ⟨n, hn, rfl, rfl⟩ := this
    obtain rfl := Option.some.inj hask
    obtain rfl := Option.some.inj hn
    rfl
  | _ => simp [askedCharge] at hask

end

/-! ## Renewals -/

/-- A failed renewal of the subscription, as Braintree tells of it. -/
def BraintreeAdapter.Renewal (adapter : BraintreeAdapter) (sub : String) (e : CanonicalEvent)
    (invoice : Invoice) : Prop :=
  ∃ xml, xmlLeaf xml.toList "kind" = some "subscription_charged_unsuccessfully" ∧
    subscriptionId xml.toList = sub ∧ adapter.ingestWebhook true xml = .ok [e] ∧ Fails e invoice

/-- A failed renewal of the subscription, as Maxio tells of it. -/
def MaxioAdapter.Renewal (adapter : MaxioAdapter) (sub : String) (e : CanonicalEvent)
    (invoice : Invoice) : Prop :=
  ∃ webhook, webhook.event = "payment_failure" ∧
    adapter.subscriptionRef webhook.payload.subscription = sub ∧
    adapter.ingestWebhook ⟨true, some webhook⟩ = .ok [e] ∧ Fails e invoice

section

variable {e : CanonicalEvent} {invoice : Invoice} {sub : String}

/-- Braintree names the invoice of a renewal after its subscription. -/
theorem BraintreeAdapter.Renewal.named {adapter : BraintreeAdapter}
    (h : adapter.Renewal sub e invoice) :
    invoice.id = invoiceIdOf sub ∧ invoice.merchantId = adapter.merchantId := by
  obtain ⟨xml, hk, rfl, hin, payload, hb, hi⟩ := h
  simp only [ingestWebhook, Bool.not_true, Bool.false_eq_true, if_false, mapNotification, hk,
    Except.ok.injEq, List.cons.injEq, and_true] at hin
  subst hin
  simp only [mapCharge, if_true, EventBody.invoiceFailed.injEq] at hb
  subst hb
  obtain rfl := Option.some.inj hi
  exact ⟨rfl, rfl⟩

/-- Maxio names the invoice of a renewal after its subscription. -/
theorem MaxioAdapter.Renewal.named {adapter : MaxioAdapter} (h : adapter.Renewal sub e invoice) :
    invoice.id = invoiceIdOf sub ∧ invoice.merchantId = adapter.merchantId := by
  obtain ⟨webhook, hk, rfl, hin, payload, hb, hi⟩ := h
  cases hs : adapter.webhookSecret with
  | false => simp [ingestWebhook, hs] at hin
  | true =>
    simp only [ingestWebhook, hs, Bool.not_true, Bool.false_eq_true, if_false, Option.map_some,
      Option.getD_some, mapWebhook, body, hk, Option.toList_some, Except.ok.injEq,
      List.cons.injEq, and_true] at hin
    subst hin
    simp only [failureBody, EventBody.invoiceFailed.injEq] at hb
    subst hb
    obtain rfl := Option.some.inj hi
    exact ⟨rfl, rfl⟩

end

/-- Every verified failure at Maxio is a failed renewal. -/
theorem MaxioAdapter.renewal_of_failure {adapter : MaxioAdapter} (hs : adapter.webhookSecret)
    {webhook : MaxioWebhook} (hk : webhook.event = "payment_failure") :
    ∃ e, adapter.Renewal (adapter.subscriptionRef webhook.payload.subscription) e
      (adapter.chargedInvoice webhook true) := by
  have hin : adapter.ingestWebhook ⟨true, some webhook⟩ =
      .ok [⟨"ax10m_evt_" ++ adapter.eventId webhook, adapter.merchantId, adapter.eventId webhook,
        adapter.occurredAt webhook, adapter.failureBody webhook⟩] := by
    simp [ingestWebhook, hs, mapWebhook, body, hk]
  exact ⟨_, webhook, hk, rfl, hin, _, rfl, rfl⟩

/-- Two failed renewals of one subscription, told by one adapter. -/
def SameSubscription (e e' : CanonicalEvent) (invoice invoice' : Invoice) : Prop :=
  (∃ (adapter : BraintreeAdapter) (sub : String),
    adapter.Renewal sub e invoice ∧ adapter.Renewal sub e' invoice') ∨
  ∃ (adapter : MaxioAdapter) (sub : String),
    adapter.Renewal sub e invoice ∧ adapter.Renewal sub e' invoice'

theorem SameSubscription.invoices {e e' : CanonicalEvent} {invoice invoice' : Invoice}
    (h : SameSubscription e e' invoice invoice') :
    Fails e invoice ∧ Fails e' invoice' ∧ invoice'.id = invoice.id ∧
      invoice'.merchantId = invoice.merchantId := by
  rcases h with ⟨adapter, sub, h, h'⟩ | ⟨adapter, sub, h, h'⟩
  · obtain ⟨hid, hm⟩ := h.named
    obtain ⟨hid', hm'⟩ := h'.named
    obtain ⟨-, -, -, -, hf⟩ := h
    obtain ⟨-, -, -, -, hf'⟩ := h'
    exact ⟨hf, hf', hid'.trans hid.symm, hm'.trans hm.symm⟩
  · obtain ⟨hid, hm⟩ := h.named
    obtain ⟨hid', hm'⟩ := h'.named
    obtain ⟨-, -, -, -, hf⟩ := h
    obtain ⟨-, -, -, -, hf'⟩ := h'
    exact ⟨hf, hf', hid'.trans hid.symm, hm'.trans hm.symm⟩

/-- Any two failed renewals of a subscription are failures of one invoice: after the first one the
    second is given no assignment, whatever is served between them, and a charge that an execution
    of the second asks for has the key of any charge of the first with its method and attempt
    number. -/
theorem renewals_collide {σ : Type} (s : RecoveryCaseService) (env : Env σ)
    {e e' : CanonicalEvent} {invoice invoice' : Invoice}
    (h : SameSubscription e e' invoice invoice') :
    invoice'.id = invoice.id ∧
    (∀ (w : World σ) pid between pid' i,
      let v := serveAll s env w (.webhook e pid :: between)
      assignments (serve s env v (.webhook e' pid')).ledger i = assignments v.ledger i) ∧
    ∀ (w w' : World σ) adapter adapter' p p', p.invoice = invoice → p'.invoice = invoice' →
      p'.attemptNumber = p.attemptNumber →
      ∀ a ∈ (s.executeRecovery adapter p).observed (World.handle env) askedCharge w,
      ∀ a' ∈ (s.executeRecovery adapter' p').observed (World.handle env) askedCharge w',
      a'.method.id = a.method.id → a'.key = a.key := by
  obtain ⟨hf, hf', hid, hm⟩ := h.invoices
  refine ⟨hid, ?_, ?_⟩
  · intro w pid between pid' i
    exact assignments_of_fails_again s env hf hf' hid pid pid' w between i
  · rintro w w' adapter adapter' p p' rfl rfl hn a ha a' ha' hmethod
    rw [asked_key ha, asked_key ha', RecoveryCaseService.chargeKey, RecoveryCaseService.chargeKey,
      hid, hm, hn, hmethod]

namespace Sample

/-- A failed renewal at Maxio. -/
def renewal (txn time : String) : MaxioWebhook where
  webhookId := some ("wh_" ++ txn)
  event := "payment_failure"
  payload := {
    subscription := { id := some (.str "sub_1"), customerId := some (.str "1") }
    transaction := { id := some (.str txn), amountInCents := some (.num 100),
                     createdAt := some (.str time), memo := some (.str "Insufficient funds") } }

def maxio : MaxioAdapter := { merchantId := "mrc_1", numberText := fun n => toString n.num }

def julyRenewal : MaxioWebhook := renewal "txn_7" "2026-07-16T12:00:00.000Z"

def augustRenewal : MaxioWebhook := renewal "txn_8" "2026-08-16T12:00:00.000Z"

/-- The service, with the digests of the subscription's customer and charge. -/
def renewalService : RecoveryCaseService :=
  { service with sha256 := fun text =>
      ([("ax10m-holdout-v1:mrc_1:ax10m_cus_1",
          "a167a667027631e11e81653e3b804c59b926bebacbca5a24c2e16efb51856068"),
        ("mrc_1:ax10m_inv_sub_1:pm_1:1",
          "f115ad45184196ed22870e14583a94601cdd22915f3c37566e31262b47d4f2e0")].lookup text).getD "" }

/-- The failure of a renewal, and then its first charge. -/
def renewed (w : World Unit) (webhook : MaxioWebhook) (time : String) : World Unit :=
  serve renewalService env
    (ingest renewalService env "maxio" w (maxio.ingestWebhook ⟨true, some webhook⟩))
    (.execute stripe
      { attempt with invoice := maxio.chargedInvoice webhook true, nowIso := some time })

def bothMonths : World Unit :=
  renewed (renewed world julyRenewal "2026-07-17T12:00:00.000Z") augustRenewal
    "2026-08-17T12:00:00.000Z"

end Sample

/-- The failures of July and August have one invoice id and one assignment; the charge of August is
    answered as a replay of July's and moves nothing, and yet both are entered as recovered. -/
theorem renewals_collide_fails :
    (Sample.maxio.chargedInvoice Sample.augustRenewal true).id =
        (Sample.maxio.chargedInvoice Sample.julyRenewal true).id ∧
      (assignments Sample.bothMonths.ledger "ax10m_inv_sub_1").length = 1 ∧
      (Sample.bothMonths.charges.map fun c => (c.key, c.result.idempotentReplay, c.moved)) =
        [("ax10m_charge_f115ad45184196ed22870e14583a9460", false, 100),
          ("ax10m_charge_f115ad45184196ed22870e14583a9460", true, 0)] ∧
      amountOf Sample.bothMonths.ledger .caseRecovered "ax10m_inv_sub_1" = 200 := by
  decide +kernel

/-- The failures of July and August are a case of this. -/
theorem renewals_collide_sample :
    (Sample.maxio.chargedInvoice Sample.augustRenewal true).id =
      (Sample.maxio.chargedInvoice Sample.julyRenewal true).id := by
  obtain ⟨e, h⟩ := MaxioAdapter.renewal_of_failure (show Sample.maxio.webhookSecret from rfl)
    (show Sample.julyRenewal.event = "payment_failure" from rfl)
  obtain ⟨e', h'⟩ := MaxioAdapter.renewal_of_failure (show Sample.maxio.webhookSecret from rfl)
    (show Sample.augustRenewal.event = "payment_failure" from rfl)
  exact (renewals_collide Sample.renewalService Sample.env
    (.inr ⟨Sample.maxio, "sub_1", h, h'⟩)).1

end AX10M
