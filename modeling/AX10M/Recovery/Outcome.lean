/-
  What is measured of a payment the service did not make.

  A paid invoice is noted in the profile of its merchant and nowhere else; the
  observations are built from the ledger.  An invoice no charge of ours collected
  therefore counts as unpaid, in either arm, whatever payments are reported for it.
-/
import AX10M.Billing.Observations
import AX10M.Recovery.Charging
import AX10M.Recovery.Reversal

namespace AX10M

open Js Effects

/-! ## Nets of invoices nothing was collected for -/

/-- No charge of the invoice succeeded. -/
def Uncollected (charges : List ChargeCall) (invoiceId : String) : Prop :=
  ∀ c ∈ charges, c.invoice.id = invoiceId → c.result.outcome ≠ .succeeded

instance (charges : List ChargeCall) (i : String) : Decidable (Uncollected charges i) :=
  inferInstanceAs (Decidable (∀ c ∈ charges, c.invoice.id = i → c.result.outcome ≠ .succeeded))

/-- No entry of the ledger changes the net of the invoice. -/
def Untouched (ledger : List LedgerEntry) (invoiceId : String) : Prop :=
  ∀ e ∈ ledger, e.isFor invoiceId → netChange e = none

theorem netChange_eq_none {e : LedgerEntry} :
    netChange e = none ↔
      e.type ≠ .caseRecovered ∧ e.type ≠ .caseReversed ∧ e.type ≠ .caseReversalReverted := by
  cases h : e.type <;> simp [netChange, h]

namespace Untouched

variable {l : List LedgerEntry} {i : String}

theorem amountOf (h : Untouched l i) {type : LedgerEventType}
    (ht : type = .caseRecovered ∨ type = .caseReversed ∨ type = .caseReversalReverted) :
    AX10M.amountOf l type i = 0 := by
  have hf : l.filter (fun e => e.isFor i ∧ e.type = type) = [] := by
    refine List.filter_eq_nil_iff.2 fun e he => ?_
    simp only [decide_eq_true_eq, not_and]
    rintro hi rfl
    have := netChange_eq_none.1 (h e he hi)
    tauto
  rw [AX10M.amountOf, hf]
  rfl

theorem cap (h : Untouched l i) {b : EventBody} {m : Move} (hm : b.move = some m) :
    m.cap l i = 0 := by
  rcases EventBody.move_eq_some hm with ⟨p, -, rfl⟩ | ⟨p, -, rfl⟩
  · show AX10M.netRecovered l i = 0
    rw [netRecovered_eq, h.amountOf (by simp), h.amountOf (by simp), sub_zero]
  · show AX10M.netReversed l i = 0
    rw [netReversed_eq, h.amountOf (by simp), h.amountOf (by simp), sub_zero]

theorem netByInvoice (h : Untouched l i) (merchantId : String) :
    ((AX10M.netByInvoice l merchantId).get i).getD 0 = 0 := by
  rw [netByInvoice_get, List.filterMap_eq_nil_iff.2, List.sum_nil]
  intro e he
  obtain ⟨he, hm⟩ := List.mem_filter.1 he
  simp only [decide_eq_true_eq] at hm
  exact h e he ((e.isFor_iff i).2 (str_eq_some hm.2).1)

end Untouched

/-- What a single entry changes of the held amount of an invoice. -/
theorem heldNet_singleton (e : LedgerEntry) (i : String) :
    heldNet [e] i = if e.isFor i then (netChange e).getD 0 else 0 := by
  simp only [heldNet, amountOf_singleton]
  by_cases hi : e.isFor i
  · cases ht : e.type <;> simp [hi, ht, netChange]
  · simp [hi]

theorem heldNet_append (l l' : List LedgerEntry) (i : String) :
    heldNet (l ++ l') i = heldNet l i + heldNet l' i := by
  simp only [heldNet, amountOf_append]
  ring

/-- The held amount of an invoice whose entries are of one merchant is the outcome that the
    observations of this merchant report. -/
theorem heldNet_eq_netByInvoice {ledger : List LedgerEntry} {merchantId i : String} (hi : i ≠ "")
    (h : ∀ e ∈ ledger, e.isFor i → e.merchantId = merchantId) :
    heldNet ledger i = ((netByInvoice ledger merchantId).get i).getD 0 := by
  rw [netByInvoice_get]
  induction ledger with
  | nil => simp [heldNet]
  | cons e l ih =>
    have ih := ih fun e' he' => h e' (List.mem_cons_of_mem _ he')
    rw [← List.singleton_append, heldNet_append, ih, List.filter_append, List.filterMap_append,
      List.sum_append, heldNet_singleton]
    congr 1
    by_cases hf : e.isFor i
    · have hs : str (e.field "invoiceId") = some i := by
        rw [(e.isFor_iff i).1 hf, str_str hi]
      cases hc : netChange e <;> simp [hf, h e List.mem_cons_self hf, hs, hc]
    · have hs : str (e.field "invoiceId") ≠ some i := fun hs =>
        hf ((e.isFor_iff i).2 (str_eq_some hs).1)
      simp [hf, hs]

section

variable {σ : Type} (s : RecoveryCaseService) (env : Env σ)

/-! ## Without a collected charge the net stays untouched -/

theorem uncollected_of_append {l l' : List ChargeCall} {i : String} (h : Uncollected (l ++ l') i) :
    Uncollected l i := fun c hc => h c (List.mem_append_left _ hc)

/-- An execution records a recovery only of an invoice one of its charges collected. -/
theorem collected_rule (charges : List ChargeCall) (i : String) (adapter : ProcessorAdapter)
    (p : ExecuteParams) :
    let I := fun b : Books => Uncollected b.charges i →
      Uncollected charges i ∧ ∀ e ∈ b.recoveries, ¬ e.isFor i
    ChargeRule s adapter p I I I where
  before _ h := h
  after _ h := h
  charged _ _ _ h _ :=
    ⟨fun hu => h (uncollected_of_append hu), fun _ _ hu => h (uncollected_of_append hu)⟩
  failed _ _ _ h _ _ _ _ hu := h (uncollected_of_append hu)
  recovered b m c h hc ho key t e he hu := by
    obtain ⟨hbefore, hrec⟩ := h (uncollected_of_append hu)
    refine ⟨hbefore, fun e' he' => ?_⟩
    rcases List.mem_append.1 he' with he' | he'
    · exact hrec e' he'
    · obtain rfl := List.mem_singleton.1 he'
      obtain ⟨t', rfl⟩ := he
      rw [LedgerEntry.isFor_iff]
      intro hf
      have hi : p.invoice.id = i := by
        simpa [LedgerEntry.field, recoveredDetail, Record.get_cons] using hf
      exact hu c (by simp) ((processorCharge_invoice hc).1 ▸ hi) ho

theorem untouched_step (i : String) (w : World σ) (r : Request)
    (h : Uncollected w.charges i → Untouched w.ledger i) :
    Uncollected (serve s env w r).charges i → Untouched (serve s env w r).ledger i := by
  intro hu
  have hrec : Uncollected w.charges i → ∀ e ∈ w.books.recoveries, ¬ e.isFor i := by
    intro hw e he hi
    obtain ⟨he, ht⟩ := List.mem_filter.1 he
    exact (netChange_eq_none.1 (h hw e he hi)).1 (by simpa using ht)
  obtain ⟨hbefore, hafter⟩ : Uncollected w.charges i ∧
      ∀ e ∈ (serve s env w r).books.recoveries, ¬ e.isFor i := by
    rcases serve_books s env w r with hq | ⟨adapter, p, rfl⟩
    · have hc : (serve s env w r).charges = w.charges := congrArg Books.charges hq
      rw [hq]
      rw [hc] at hu
      exact ⟨hu, hrec hu⟩
    · exact serve_execute_books s env (collected_rule s w.charges i adapter p)
        (fun hw => ⟨hw, hrec hw⟩) hu
  have hw := h hbefore
  rcases serve_ledger s env w r with ⟨invoice, types, added, hc, hl, hadded⟩ |
    ⟨event, pid, m, rfl, hm⟩ | ⟨-, hl⟩
  · rw [hl]
    intro e he hi
    rcases List.mem_append.1 he with he' | he'
    · exact hw e he' hi
    · obtain ⟨hrev, hback⟩ := Request.caseOf_types hc
      have ht := (hadded e he').2.2.1
      refine netChange_eq_none.2 ⟨fun hr => ?_, fun hr => hrev (hr ▸ ht), fun hr => hback (hr ▸ ht)⟩
      exact hafter e (List.mem_filter.2 ⟨hl ▸ he, by simpa using hr⟩) hi
  · rw [serve_move s env w pid hm]
    split
    next => exact hw
    next hcap =>
      intro e he hi
      rcases List.mem_append.1 he with he | he
      · exact hw e he hi
      · -- a move about the invoice finds nothing left
        rw [List.mem_singleton.1 he, reversalEntry_isFor, decide_eq_true_eq] at hi
        subst hi
        exact absurd (hw.cap hm).le hcap
  · rw [hl]
    exact hw

/-- In every run, an invoice no charge collected has no entry that changes its net. -/
theorem untouched_run (policy : σ) (clock : ℕ → ℤ) (rs : List Request) (i : String)
    (hu : Uncollected (serveAll s env (World.init policy clock) rs).charges i) :
    Untouched (serveAll s env (World.init policy clock) rs).ledger i := by
  refine serveAll_inv s env (P := fun _ => True)
    (I := fun w => Uncollected w.charges i → Untouched w.ledger i)
    (fun w r _ h => untouched_step s env i w r h) (fun _ _ => trivial) ?_ hu
  exact fun _ e he => absurd he List.not_mem_nil

/-! ## Assignments are observed -/

/-- The entry records the arm that the service assigns an invoice. -/
def AssignedBy (s : RecoveryCaseService) (e : LedgerEntry) : Prop :=
  ∃ invoice stratum a,
    assign s.sha256 ⟨invoice.merchantId, some invoice.customerId, invoice.id, stratum⟩
      s.holdoutConfig = .ok a ∧
    e.merchantId = invoice.merchantId ∧ e.detail = assignedDetail invoice a

variable {s} in
theorem AssignedBy.arm {e : LedgerEntry} (h : AssignedBy s e) : (bucketOf e).isSome := by
  obtain ⟨invoice, stratum, a, -, -, hdetail⟩ := h
  cases hb : a.bucket <;>
    simp [bucketOf, LedgerEntry.field, hdetail, assignedDetail, Record.get_cons, hb, Bucket.text,
      str]

/-- The operation appends no assignment that the service does not make. -/
def AppendsAssigned : ServiceOp → Prop
  | .ledgerAppend e => e.type = .holdoutAssigned → AssignedBy s e
  | _ => True

theorem CaseOp.appendsAssigned {invoice : Invoice} {types : List LedgerEventType}
    {attempt : Option ℕ} (ht : .holdoutAssigned ∉ types) (o : ServiceOp)
    (h : CaseOp s invoice types attempt o) : AppendsAssigned s o := by
  cases o with
  | ledgerAppend e => exact fun he => absurd (he ▸ h.2.2.1) ht
  | _ => trivial

theorem openCase_appendsAssigned (invoice : Invoice) (stratum : Stratum) (occurredAt : String) :
    (s.openCase invoice stratum occurredAt).Uses (AppendsAssigned s) := by
  unfold RecoveryCaseService.openCase
  split
  · exact ⟨trivial, fun r => r.elim⟩
  next a ha =>
    refine ⟨trivial, fun opened => ?_⟩
    cases opened
    · exact ⟨trivial, fun _ => ⟨fun _ => ⟨invoice, stratum, a, ha, rfl, rfl⟩, fun _ => trivial⟩⟩
    · trivial

theorem program_appendsAssigned (r : Request) : (s.program r).Uses (AppendsAssigned s) := by
  cases r with
  | webhook event pid =>
    refine s.handleEvent_uses_of event pid (fun payload invoice => ?_) trivial ?_ fun _ _ => trivial
    · exact s.handleFailure_uses_of event _ _ (openCase_appendsAssigned s _ _ _)
        (CaseOp.appendsAssigned s (by decide))
    · intro e he ha
      rw [ha] at he
      simp at he
  | plan invoice method decline n =>
    exact ((s.planAttempt_uses invoice method decline n).imp
      (CaseOp.appendsAssigned s (by decide))).bind fun _ => trivial
  | execute adapter p =>
    exact ((s.executeRecovery_uses adapter p).imp
      (CaseOp.appendsAssigned s (by decide))).bind fun _ => trivial

/-- In every run, each assignment of the ledger is one that the service makes. -/
theorem assignedBy_run (policy : σ) (clock : ℕ → ℤ) (rs : List Request) :
    ∀ e ∈ (serveAll s env (World.init policy clock) rs).ledger, e.type = .holdoutAssigned →
      AssignedBy s e := by
  let I := fun w : World σ => ∀ e ∈ w.ledger, e.type = .holdoutAssigned → AssignedBy s e
  refine serveAll_inv s env (P := fun _ => True) (I := I) (fun w r _ hw => ?_) (fun _ _ => trivial)
    (fun e he => absurd he List.not_mem_nil)
  refine Prog.exec_inv I ?_ (program_appendsAssigned s r) hw
  intro o w' ho hw' e he
  cases o with
  | ledgerAppend e' =>
    rcases List.mem_append.1 he with he | he
    · exact hw' e he
    · rw [List.mem_singleton.1 he]
      exact ho
  | attemptCharge a i m k =>
    simp only [World.handle] at he
    split at he <;> exact hw' e he
  | _ => exact hw' e he

/-- Every assignment of the ledger says its arm. -/
def ArmsAssigned (w : World σ) : Prop :=
  ∀ e ∈ w.ledger, e.type = .holdoutAssigned → (bucketOf e).isSome

theorem armsAssigned_run (policy : σ) (clock : ℕ → ℤ) (rs : List Request) :
    ArmsAssigned (serveAll s env (World.init policy clock) rs) :=
  fun e he ht => (assignedBy_run s env policy clock rs e he ht).arm

/-! ## Baseline payments -/

/-- An assigned invoice that is reported paid, and that no charge collected. -/
structure PaidOutside (rs : List Request) (w : World σ) (merchantId : String)
    (period : BillingPeriod) (invoice : Invoice) (e : LedgerEntry) : Prop where
  reported : ∃ event pid, .webhook event pid ∈ rs ∧ event.body = .invoicePaid (some invoice)
  uncollected : Uncollected w.charges invoice.id
  entry : e ∈ w.ledger
  assigned : assignedIn e merchantId period
  about : e.isFor invoice.id

/-- No payment from outside is measured: in every run, the observation of such an invoice, in
    whatever arm, says that nothing was paid. -/
theorem baseline_payment_unmeasured (policy : σ) (clock : ℕ → ℤ) (rs : List Request)
    (merchantId : String) (period : BillingPeriod) (invoice : Invoice) (e : LedgerEntry)
    (h : PaidOutside rs (serveAll s env (World.init policy clock) rs) merchantId period invoice e) :
    let w := serveAll s env (World.init policy clock) rs
    let net := netByInvoice w.ledger merchantId
    (invoice.id ≠ "" → ∃ o ∈ reconstructObservations w.ledger merchantId period,
      observationOf net e = some o) ∧
    (∀ o, observationOf net e = some o → o.outcome = 0 ∧ o.recovered = false) ∧
    ¬ ∃ o, observationOf net e = some o ∧ o.outcome = invoice.amount.amount ∧
      o.recovered = true := by
  intro w net
  have hnet : (net.get invoice.id).getD 0 = 0 :=
    (untouched_run s env policy clock rs invoice.id h.uncollected).netByInvoice merchantId
  have hfield : e.field "invoiceId" = some (.str invoice.id) := (e.isFor_iff _).1 h.about
  have hzero : ∀ o, observationOf net e = some o → o.outcome = 0 ∧ o.recovered = false := by
    intro o ho
    simp only [observationOf, Option.bind_eq_bind, Option.bind_eq_some_iff, Option.pure_def,
      Option.some.injEq] at ho
    obtain ⟨i, hi, arm, -, rfl⟩ := ho
    obtain rfl : invoice.id = i := by simpa using hfield.symm.trans (str_eq_some hi).1
    simp [hnet]
  refine ⟨fun hid => ?_, hzero, ?_⟩
  · have ht : e.type = .holdoutAssigned := by
      have := h.assigned
      simp only [assignedIn, Bool.and_eq_true, decide_eq_true_eq] at this
      exact this.1.1
    obtain ⟨arm, harm⟩ := Option.isSome_iff_exists.1
      (armsAssigned_run s env policy clock rs e h.entry ht)
    obtain ⟨o, ho⟩ : ∃ o, observationOf net e = some o := by
      simp [observationOf, hfield, str_str hid, harm]
    exact ⟨o, List.mem_filterMap.2 ⟨e, List.mem_filter.2 ⟨h.entry, h.assigned⟩, ho⟩, ho⟩
  · rintro ⟨o, ho, -, hr⟩
    rw [(hzero o ho).2] at hr
    cases hr

end

/-- The sample invoice fails, and is paid without our help. -/
def Sample.paidOutside : List Request :=
  [.webhook (Sample.event "fail_1" (.invoiceFailed
      { invoice := some Sample.invoice, decline := some Sample.decline })) none,
    .webhook (Sample.event "paid_1" (.invoicePaid (some Sample.invoice))) none]

/-- The ledger after that, with some holdout. -/
def Sample.paidLedger (config : HoldoutConfig) : List LedgerEntry :=
  (serveAll { Sample.service with holdoutConfig := config } Sample.env Sample.world
    Sample.paidOutside).ledger

/-- The month the sample invoice failed in. -/
def Sample.august : BillingPeriod := monthBefore 1788220800000

/-- The payment of the sample invoice is not measured. -/
theorem baseline_payment_unmeasured_sample :
    ∃ e ∈ Sample.paidLedger defaultHoldoutConfig, e.isFor "inv_1" ∧
      ¬ ∃ o, observationOf (netByInvoice (Sample.paidLedger defaultHoldoutConfig) "mrc_1") e =
        some o ∧ o.outcome = 100 ∧ o.recovered = true := by
  obtain ⟨e, he, ha, hi⟩ : ∃ e ∈ Sample.paidLedger defaultHoldoutConfig,
      assignedIn e "mrc_1" Sample.august ∧ e.isFor "inv_1" := by decide +kernel
  refine ⟨e, he, hi, ?_⟩
  exact (baseline_payment_unmeasured Sample.service Sample.env () (fun _ => 1786881600000)
    Sample.paidOutside "mrc_1" Sample.august Sample.invoice e
    ⟨⟨_, _, List.mem_cons_of_mem _ List.mem_cons_self, rfl⟩, by decide +kernel, he, ha, hi⟩).2.2

/-- Paid without our help, the invoice is measured as unpaid, in control as in treatment. -/
theorem baseline_payment_unmeasured_fails :
    let observed := fun config =>
      reconstructObservations (Sample.paidLedger config) "mrc_1" Sample.august
    ((observed defaultHoldoutConfig).map fun o => (o.arm, o.outcome, o.recovered)) =
        [(.treatment, 0, false)] ∧
      ((observed ⟨1 / 2, "ax10m-holdout-v1"⟩).map fun o => (o.arm, o.outcome, o.recovered)) =
        [(.control, 0, false)] ∧
      ¬ ∀ o ∈ observed defaultHoldoutConfig, o.outcome = 100 ∧ o.recovered = true := by
  decide +kernel

end AX10M
