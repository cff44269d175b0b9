/-
  A fee whose collection failed (`billing/billing-job.ts`, `billing/billing-run.ts`).

  A statement moves the watermark when it is recorded, which is before its fee is charged; a run of
  the same month then finds nothing to bill.  What is left to collect the fee is the invoice, and it
  is issued at the end of the job, to merchants with an account (`stays_collectable_iff`).
-/
import AX10M.Billing.Collection

namespace AX10M

open Js Logs

/-! ## Statements do not change what is measured -/

theorem netByInvoice_append_statements (entries : List LedgerEntry) {l : List LedgerEntry}
    (h : ∀ e ∈ l, e.type = .upliftStatement) (m : String) :
    netByInvoice (entries ++ l) m = netByInvoice entries m := by
  induction l using List.reverseRecOn with
  | nil => rw [List.append_nil]
  | append_singleton l e ih =>
    have hchange : netChange e = none := by rw [netChange, h e (by simp)]
    rw [← List.append_assoc, netByInvoice, List.foldl_append, ← netByInvoice,
      ih fun e' he' => h e' (by simp [he'])]
    simp [hchange]

theorem reconstructObservations_append_statements (entries : List LedgerEntry)
    {l : List LedgerEntry} (h : ∀ e ∈ l, e.type = .upliftStatement) (m : String)
    (p : BillingPeriod) :
    reconstructObservations (entries ++ l) m p = reconstructObservations entries m p := by
  have hnone : l.filter (fun e => assignedIn e m p) = [] :=
    List.filter_eq_nil_iff.2 fun e he => by simp [assignedIn, h e he]
  rw [reconstructObservations, reconstructObservations, netByInvoice_append_statements entries h,
    List.filter_append, hnone, List.append_nil]

section

variable {K : Type} [Field K] [LinearOrder K] [FloorRing K]

namespace JobRun

/-- The run is of the same program and month as another one before it, with no activity between. -/
structure Reruns (y x : JobRun K) : Prop where
  activity : y.activity = []
  ops : y.opts.ctx.ops = x.opts.ctx.ops
  config : y.opts.ctx.config = x.opts.ctx.config
  instant : x.instant ≤ y.instant
  period : y.period = x.period

end JobRun

/-- The invoice drives the collection of what a result bills. -/
structure Drives (r : BillingMerchantResult K) (invoice : BillingInvoice) : Prop where
  merchantId : invoice.merchantId = r.merchantId
  period : invoice.period = r.period.label
  total : invoice.totalDueMinor = r.economics.netBilledMinor
  unsettled : invoice.unsettled

/-- The number of the invoice of a result. -/
def invoiceNumberOf (r : BillingMerchantResult K) : String :=
  invoiceNumberFor r.merchantId r.period.label

/-- What a result of a run bills can still be collected: an invoice drives its collection, or some
    run of the same month bills the same amount again. -/
def Collectable (x : JobRun K) (s : BillingState) (r : BillingMerchantResult K) : Prop :=
  (∃ invoice, s.invoices.get (invoiceNumberOf r) = some invoice ∧ Drives r invoice) ∨
    ∃ y : JobRun K, y.Reruns x ∧ ∃ r' ∈ y.results s, r'.merchantId = r.merchantId ∧
      r'.economics.netBilledMinor = r.economics.netBilledMinor

/-- The invoice of a result is that of its merchant and month, over what it bills. -/
theorem issuedInvoice_drives {opts : BillingJobOptions K} {entries : List LedgerEntry}
    {p : BillingPeriod} {r : BillingMerchantResult K}
    (hr : Billed (opts.at r.merchantId) entries p r.merchantId r) {invoice : BillingInvoice}
    (h : issuedInvoice opts r = some invoice) :
    invoice.invoiceNumber = invoiceNumberOf r ∧ Drives r invoice := by
  have hperiod : r.statement.period = r.period.label := by
    rw [hr.statement, hr.period]
    rfl
  unfold issuedInvoice at h
  split_ifs at h
  cases ha : accountForMerchant opts.accounts r.merchantId with
  | none => simp [ha] at h
  | some account =>
    simp only [ha] at h
    have hbuilt := buildInvoice_spec (toOption_eq_some.1 h)
    have hnumber := hbuilt.number
    rw [hperiod] at hnumber
    exact ⟨hnumber, hbuilt.merchant.trans (accountForMerchant_merchantId ha),
      hbuilt.period.trans hperiod, hbuilt.total, hbuilt.unsettled⟩

variable [IsStrictOrderedRing K]

/-- A statement at its watermark bills nothing. -/
theorem netBilled_settled (m : Measurement K) (feeRate : K) (lift : K) (treated : ℕ) (h : ℚ) :
    (computeHoldoutEconomics (settle m feeRate m.lowerDollars).fee lift treated h).netBilledMinor =
      0 := by
  have hfee : (settle m feeRate m.lowerDollars).fee = 0 := by simp [settle]
  rw [hfee]
  simp only [computeHoldoutEconomics]
  omega

namespace JobRun

variable {x : JobRun K} {s : BillingState} {r : BillingMerchantResult K}

/-- A run of the same month after a recorded one bills nothing. -/
theorem rerun_bills_nothing (hr : r ∈ x.recorded s)
    (hle : ∀ p ∈ statements s.ledger r.merchantId, p.1 ≤ x.instant) {y : JobRun K}
    (hy : y.Reruns x) {r' : BillingMerchantResult K} (hr' : r' ∈ y.results (x.after s))
    (hm : r'.merchantId = r.merchantId) : r'.economics.netBilledMinor = 0 := by
  have hbilled := results_mem (List.mem_of_mem_take hr)
  have hbilled' := results_mem hr'
  rw [hm] at hbilled'
  -- the run reads the statement that was recorded
  have hprior : priorBilledFromLedger (y.entries (x.after s)) r.merchantId =
      r.statement.result.lowerDollarsCum := by
    rw [entries, hy.activity, List.append_nil, priorBilled_eq, statements_recorded hr,
      latest_concat_of_le hle]
    simp [keptOf]
  -- and measures the same cohort
  have hmeasure : measureCohort (y.opts.at r.merchantId).ctx (y.entries (x.after s)) r.merchantId
      y.period = measureCohort (x.opts.at r.merchantId).ctx (x.entries s) r.merchantId x.period := by
    have hobs := reconstructObservations_append_statements (x.entries s)
      (l := (x.recorded s).map (statementEntry x.opts.nowIso)) (by simp [statementEntry])
      r.merchantId x.period
    rw [measureCohort, measureCohort, entries, hy.activity, List.append_nil, after_ledger, hy.period,
      hobs]
    simp only [BillingJobOptions.at, hy.ops, hy.config]
  have hlower : r.statement.result.lowerDollarsCum =
      (measureCohort (x.opts.at r.merchantId).ctx (x.entries s) r.merchantId
        x.period).lowerDollars := by
    rw [hbilled.statement]
    rfl
  have hresult : r'.statement.result =
      settle (measureCohort (x.opts.at r.merchantId).ctx (x.entries s) r.merchantId x.period)
        y.opts.ctx.config.feeRate
        (measureCohort (x.opts.at r.merchantId).ctx (x.entries s) r.merchantId
          x.period).lowerDollars := by
    rw [hbilled'.statement]
    show settle (measureCohort (y.opts.at r.merchantId).ctx (y.entries (x.after s)) r.merchantId
      y.period) y.opts.ctx.config.feeRate
        (priorBilledFromLedger (y.entries (x.after s)) r.merchantId) = _
    rw [hmeasure, hprior, hlower]
  rw [hbilled'.economics, hresult]
  exact netBilled_settled _ _ _ _ _

end JobRun

/-- What a run recorded and did not collect can still be collected after it exactly if the merchant
    has an account and the run gets as far as storing its invoice, with none of the same number
    after it, or if it stores none of that number and an invoice of the same merchant, month and
    amount was left there before. -/
theorem stays_collectable_iff (xs : List (JobRun K)) (x : JobRun K)
    (hxs : RunsInOrder (xs ++ [x])) :
    let s := jobState xs
    ∀ r ∈ x.results s, .append (statementEntry x.opts.nowIso r) ∈ x.effects s →
      r.statement.result.billable → 0 < r.economics.netBilledMinor →
      (∀ receipt, .charge (chargeRequest r) receipt ∈ x.effects s → receipt.status ≠ .charged) →
      (Collectable x (jobState (xs ++ [x])) r ↔
        (accountForMerchant x.opts.accounts r.merchantId).isSome ∧
            x.storedAs s (invoiceNumberOf r) = issuedInvoice x.opts r ∨
          x.storedAs s (invoiceNumberOf r) = none ∧
            ∃ invoice ∈ s.invoices.get (invoiceNumberOf r), Drives r invoice) := by
  intro s r hr hrec hbillable hpos _
  have hmem := JobRun.mem_recorded hr hrec
  have hbilled := JobRun.results_mem hr
  rw [jobState_concat, Collectable]
  constructor
  · rintro (⟨invoice, hget, hdrives⟩ | ⟨y, hy, r', hr', hm, hnet⟩)
    · rw [JobRun.after_invoices] at hget
      cases hstored : x.storedAs s (invoiceNumberOf r) with
      | none =>
        rw [hstored] at hget
        exact .inr ⟨rfl, invoice, hget, hdrives⟩
      | some invoice' =>
        rw [hstored] at hget
        obtain rfl : invoice' = invoice := Option.some.inj hget
        obtain ⟨-, r', hr', hissued⟩ := JobRun.storedAs_cases hstored
        have hname := (issuedInvoice_drives (JobRun.results_mem hr') hissued).2.merchantId
        rw [hdrives.merchantId] at hname
        obtain rfl := List.inj_on_of_nodup_map (jobResults_nodup _ _) hr hr' hname
        exact .inl ⟨issuedInvoice_account hissued, hissued.symm⟩
    · have hzero := JobRun.rerun_bills_nothing hmem (fun p hp => jobState_le hxs hp) hy hr' hm
      omega
  · rintro (⟨haccount, hstored⟩ | ⟨hnone, invoice, hget, hdrives⟩)
    · obtain ⟨invoice, hissued⟩ := exists_issuedInvoice x.parsed hbillable hpos haccount
      refine .inl ⟨invoice, ?_, (issuedInvoice_drives hbilled hissued).2⟩
      rw [JobRun.after_invoices, hstored, hissued]
      rfl
    · refine .inl ⟨invoice, ?_, hdrives⟩
      rw [JobRun.after_invoices, hnone]
      exact hget

end

namespace Sample

theorem cohort_quiet : ∀ e ∈ cohort "2026-01-15", e.type ≠ .upliftStatement := by decide

theorem february_first : Date.parse "2026-02-01T06:00:00.000Z" = some 1769925600000 := by
  decide +kernel

/-- A live run of January on the first of February; the card is declined. -/
def januaryRun (stop : ℕ) : JobRun ℚ where
  activity := cohort "2026-01-15"
  quiet := cohort_quiet
  opts :=
    { toBillingRunOptions := { billing upliftConfig "2026-02-01T06:00:00.000Z" with
        live := true
        charger := stripeCharge (accountForMerchant [autoPayAccount])
          fun _ => .cardError (some "expired_card") none "Your card has expired."
        onboardedAt := onboardedAtOf [autoPayAccount] }
      clock := fun _ => "2026-02-01T06:00:01.250Z"
      accounts := [autoPayAccount]
      remitTo := "billing@ax10m.example" }
  instant := 1769925600000
  parsed := february_first
  stop

/-- What the run bills, and what it asks for. -/
theorem januaryRun_results (stop : ℕ) :
    ∃ r receipt, (januaryRun stop).results {} = [r] ∧ r.merchantId = "mrc_1" ∧
      r.statement.result.billable ∧ r.economics.netBilledMinor = 1183 ∧
      r.charge = some receipt ∧ receipt.status = .failed := by
  have hlength : ((januaryRun 0).results {}).length = 1 := by decide +kernel
  have hall : ∀ r ∈ (januaryRun 0).results {}, r.merchantId = "mrc_1" ∧
      r.statement.result.billable ∧ r.economics.netBilledMinor = 1183 ∧
      ∃ receipt ∈ r.charge, receipt.status = .failed := by decide +kernel
  obtain ⟨r, hr⟩ := List.length_eq_one_iff.1 hlength
  obtain ⟨hm, hbillable, hnet, receipt, hcharge, hstatus⟩ := hall r (by simp [hr])
  exact ⟨r, receipt, hr, hm, hbillable, hnet, hcharge, hstatus⟩

end Sample

/-- The process ends after the statement is recorded: its fee cannot be collected any more. -/
theorem stays_collectable_fails :
    let x := Sample.januaryRun 1
    ∃ r ∈ x.results {}, .append (statementEntry x.opts.nowIso r) ∈ x.effects {} ∧
      r.statement.result.billable ∧ r.economics.netBilledMinor = 1183 ∧
      (∀ receipt, .charge (chargeRequest r) receipt ∉ x.effects {}) ∧
      ¬ Collectable x (jobState [x]) r := by
  intro x
  obtain ⟨r, receipt, hr, hm, hbillable, hnet, -, -⟩ := Sample.januaryRun_results 1
  have hmem : r ∈ x.results {} := by
    rw [hr]
    exact List.mem_singleton_self r
  have heffects : x.effects {} = [.append (statementEntry x.opts.nowIso r)] := by
    rw [JobRun.effects, hr]
    rfl
  have hrec : r ∈ x.recorded {} := JobRun.mem_recorded hmem (by rw [heffects]; simp)
  refine ⟨r, hmem, by rw [heffects]; simp, hbillable, hnet, by simp [heffects], ?_⟩
  rintro (⟨invoice, hget, -⟩ | ⟨y, hy, r', hr', hname, hnet'⟩)
  · have hnone : x.storedAs {} (invoiceNumberOf r) = none := by
      rw [JobRun.storedAs, heffects]
      rfl
    have hafter : (jobState [x]).invoices.get (invoiceNumberOf r) = none := by
      rw [← List.nil_append [x], jobState_concat, JobRun.after_invoices]
      exact congrArg (·.or none) hnone
    rw [hafter] at hget
    cases hget
  · have hzero := JobRun.rerun_bills_nothing hrec (by simp [statements]) hy hr' hname
    omega

/-- The card is declined, and the invoice is issued. -/
theorem stays_collectable_invoiced :
    let x := Sample.januaryRun 3
    ∃ r ∈ x.results {}, r.economics.netBilledMinor = 1183 ∧ Collectable x (jobState [x]) r := by
  intro x
  obtain ⟨r, receipt, hr, hm, hbillable, hnet, hcharge, hstatus⟩ := Sample.januaryRun_results 3
  have hmem : r ∈ x.results {} := by
    rw [hr]
    exact List.mem_singleton_self r
  have haccount : (accountForMerchant x.opts.accounts r.merchantId).isSome := by
    rw [hm]
    decide
  obtain ⟨invoice, hissued⟩ := exists_issuedInvoice x.parsed hbillable (by omega) haccount
  have heffects : x.effects {} = [.append (statementEntry x.opts.nowIso r),
      .charge (chargeRequest r) receipt, .upsertInvoice invoice] := by
    have hresults : x.results {} = [r] := hr
    rw [JobRun.effects, hresults]
    simp only [jobEffects, merchantEffects, hcharge, List.flatMap_cons, List.flatMap_nil,
      List.filterMap_cons, hissued, List.filterMap_nil, List.map_cons, List.map_nil]
    rfl
  have hrec : .append (statementEntry x.opts.nowIso r) ∈
      x.effects (jobState ([] : List (JobRun ℚ))) := by
    show _ ∈ x.effects {}
    rw [heffects]
    simp
  refine ⟨r, hmem, hnet, (stays_collectable_iff [] x (List.pairwise_singleton _ _) r hmem hrec
    hbillable (by omega) ?_).2 (.inl ⟨haccount, ?_⟩)⟩
  · show ∀ receipt', _ ∈ x.effects {} → _
    intro receipt' hmem'
    rw [heffects] at hmem'
    obtain rfl : receipt' = receipt := by simpa using hmem'
    rw [hstatus]
    decide
  · show x.storedAs {} _ = _
    have hnumber := (issuedInvoice_drives (JobRun.results_mem hmem) hissued).1
    rw [JobRun.storedAs, heffects, hissued]
    simp [List.filterMap_cons, JobEffect.stored, hnumber]

end AX10M
