/-
  Paid invoices and dunning (`billing/billing-job.ts`, `billing/billing-dunning-job.ts`;
  `@ax10m/persistence`, `billing-repo.ts`).

  No charge marks an invoice as paid, and a run that bills a month again writes its invoice anew.  So
  what was paid is dunned like anything else, from three days before its due date on: it is left
  alone if and only if every sweep is earlier, and no run moves a due date
  (`paid_never_dunned_iff`).
-/
import AX10M.Billing.Delivery
import AX10M.Billing.Contract

namespace AX10M

open Js

/-! ## Jobs and sweeps -/

/-- A sweep of all invoices. -/
structure Sweep where
  nowIso : String
  instant : ℤ
  parsed : Date.parse nowIso = some instant
  send : DunningSender

/-- The tables, and the keys of what was sent. -/
structure DunningState extends BillingState where
  sent : List String := []

/-- What a sweep delivers. -/
def Sweep.results (y : Sweep) (s : DunningState) : List InvoiceDeliveryResult :=
  (runSweep y.send s.sent y.nowIso s.invoices.values).1

inductive DunningStep (K : Type) where
  /-- a live job, of whose first notices the first `delivered` are delivered before it ends -/
  | job (x : JobRun K) (send : DunningSender) (delivered : ℕ)
  | sweep (y : Sweep)

/-- The time of a step. -/
def DunningStep.instant {K : Type} : DunningStep K → ℤ
  | .job x _ _ => x.instant
  | .sweep y => y.instant

/-- The steps are made one after the other. -/
def StepsInOrder {K : Type} (xs : List (DunningStep K)) : Prop :=
  xs.Pairwise fun a b => a.instant ≤ b.instant

/-- The invoices are kept under their numbers. -/
def KeptByNumber (invoices : Map String BillingInvoice) : Prop :=
  ∀ p ∈ invoices.entries, p.1 = p.2.invoiceNumber

theorem mem_values {invoices : Map String BillingInvoice} (h : KeptByNumber invoices)
    {invoice : BillingInvoice} :
    invoice ∈ invoices.values ↔ invoices.get invoice.invoiceNumber = some invoice := by
  rw [Map.get_eq_some_iff]
  constructor
  · intro hmem
    obtain ⟨p, hp, rfl⟩ := List.mem_map.1 hmem
    rw [← h p hp]
    exact hp
  · intro hmem
    exact List.mem_map_of_mem hmem

section

variable {K : Type} [Field K] [LinearOrder K] [FloorRing K]

/-- What a step changes. -/
def DunningStep.after (s : DunningState) : DunningStep K → DunningState
  | .job x send delivered =>
    { x.after s.toBillingState with
      sent := (((x.effects s.toBillingState).filterMap JobEffect.stored).take delivered).foldl
        (fun sent invoice => (deliverStage send sent invoice .issued x.opts.nowIso).2) s.sent }
  | .sweep y => { s with sent := (runSweep y.send s.sent y.nowIso s.invoices.values).2 }

/-- The state after some steps. -/
def dunningState (xs : List (DunningStep K)) : DunningState := xs.foldl DunningStep.after {}

theorem dunningState_append (xs ys : List (DunningStep K)) :
    dunningState (xs ++ ys) = ys.foldl DunningStep.after (dunningState xs) := by
  rw [dunningState, List.foldl_append]
  rfl

theorem dunningState_concat (xs : List (DunningStep K)) (a : DunningStep K) :
    dunningState (xs ++ [a]) = a.after (dunningState xs) :=
  dunningState_append xs [a]

/-- The last invoice of a number that a step stores. -/
def DunningStep.storedAs (s : DunningState) (n : String) : DunningStep K → Option BillingInvoice
  | .job x _ _ => x.storedAs s.toBillingState n
  | .sweep _ => none

theorem after_get (a : DunningStep K) (s : DunningState) (n : String) :
    (a.after s).invoices.get n = (a.storedAs s n).or (s.invoices.get n) := by
  cases a with
  | job x send delivered => exact x.after_invoices s.toBillingState n
  | sweep y => rfl

/-! ## Stored invoices -/

omit [Field K] [LinearOrder K] [FloorRing K] in
/-- What an invoice is issued with. -/
theorem issuedInvoice_dates {opts : BillingJobOptions K} {r : BillingMerchantResult K}
    {invoice : BillingInvoice} (h : issuedInvoice opts r = some invoice) {t : ℤ}
    (ht : Date.parse opts.nowIso = some t) :
    invoice.issuedAt = opts.nowIso ∧ invoice.status = .issued ∧
      ∃ account, accountForMerchant opts.accounts r.merchantId = some account ∧
        invoice.dueAt =
          Date.toISOString (t + account.feeSchedule.paymentTermsDays * Date.msPerDay) := by
  unfold issuedInvoice at h
  split_ifs at h
  cases ha : accountForMerchant opts.accounts r.merchantId with
  | none => simp [ha] at h
  | some account =>
    simp only [ha] at h
    have hbuilt := buildInvoice_spec (toOption_eq_some.1 h)
    have hdue := hbuilt.due
    rw [addDaysIso, ht] at hdue
    exact ⟨hbuilt.issued, hbuilt.status, account, rfl, (Except.ok.inj hdue).symm⟩

/-- What every stored invoice is, at a time: unsettled, and issued by then. -/
structure Outstanding (now : ℤ) (invoice : BillingInvoice) : Prop where
  status : invoice.status = .issued
  issued : ∃ t, Date.parse invoice.issuedAt = some t ∧ t ≤ now

theorem storedAs_outstanding {a : DunningStep K} {s : DunningState} {n : String}
    {invoice : BillingInvoice} (h : a.storedAs s n = some invoice) :
    invoice.invoiceNumber = n ∧ Outstanding a.instant invoice := by
  cases a with
  | sweep y => cases h
  | job x send delivered =>
    obtain ⟨hn, r, -, hissued⟩ := JobRun.storedAs_cases h
    obtain ⟨hdate, hstatus, -⟩ := issuedInvoice_dates hissued x.parsed
    refine ⟨hn, hstatus, x.instant, ?_, le_refl _⟩
    rw [hdate]
    exact x.parsed

/-- An invoice in the table was stored by some step. -/
theorem stored_by {xs : List (DunningStep K)} {n : String} {invoice : BillingInvoice}
    (h : (dunningState xs).invoices.get n = some invoice) :
    ∃ a ∈ xs, ∃ s : DunningState, a.storedAs s n = some invoice := by
  induction xs using List.reverseRecOn with
  | nil => cases h
  | append_singleton xs a ih =>
    rw [dunningState_concat, after_get] at h
    cases hs : a.storedAs (dunningState xs) n with
    | none =>
      rw [hs] at h
      obtain ⟨b, hb, hstored⟩ := ih h
      exact ⟨b, List.mem_append_left _ hb, hstored⟩
    | some stored =>
      rw [hs] at h
      obtain rfl : stored = invoice := Option.some.inj h
      exact ⟨a, by simp, _, hs⟩

theorem get_outstanding {xs : List (DunningStep K)} {now : ℤ} (h : ∀ a ∈ xs, a.instant ≤ now)
    {n : String} {invoice : BillingInvoice}
    (hget : (dunningState xs).invoices.get n = some invoice) : Outstanding now invoice := by
  obtain ⟨a, ha, s, hs⟩ := stored_by hget
  obtain ⟨-, hstatus, t, ht, hle⟩ := storedAs_outstanding hs
  exact ⟨hstatus, t, ht, hle.trans (h a ha)⟩

theorem keptByNumber (xs : List (DunningStep K)) : KeptByNumber (dunningState xs).invoices := by
  intro p hp
  obtain ⟨a, -, s, hs⟩ := stored_by (Map.get_eq_some_iff.2 hp)
  exact (storedAs_outstanding hs).1.symm

/-! ## Stages at a date -/

/-- A date is before the reminders of an invoice begin, three days before it is due. -/
def BeforeReminders (invoice : BillingInvoice) (now : ℤ) : Prop :=
  ∀ due, Date.parse invoice.dueAt = some due → now < due - 3 * Date.msPerDay

omit [Field K] [LinearOrder K] [FloorRing K]

theorem financeCharge_eq_zero {invoice : BillingInvoice} {nowIso : String} {now : ℤ}
    (hnow : Date.parse nowIso = some now) (h : BeforeReminders invoice now) :
    computeFinanceChargeMinor invoice nowIso = 0 := by
  unfold computeFinanceChargeMinor
  cases hdue : Date.parse invoice.dueAt with
  | none => rfl
  | some due =>
    have hlt := h due hdue
    rw [Date.msPerDay] at hlt
    simp only [hnow]
    rw [if_pos (by omega)]

theorem pastDue_iff {invoice : BillingInvoice} {nowIso : String} {now : ℤ}
    (hnow : Date.parse nowIso = some now) :
    pastDue invoice nowIso = true ↔ ∃ due, Date.parse invoice.dueAt = some due ∧ due < now := by
  unfold pastDue
  cases hdue : Date.parse invoice.dueAt <;> simp [hnow]

/-- An unsettled invoice is overdue exactly past its due date. -/
theorem invoiceAsOf_overdue {invoice : BillingInvoice} (h : invoice.status = .issued)
    (nowIso : String) : (invoiceAsOf invoice nowIso).status =
      if pastDue invoice nowIso then .overdue else .issued := by
  simp [invoiceAsOf, h]

theorem invoiceAsOf_status {invoice : BillingInvoice} (h : invoice.status = .issued)
    (nowIso : String) : ¬ ((invoiceAsOf invoice nowIso).status = .paid ∨
      (invoiceAsOf invoice nowIso).status = .void) := by
  rw [invoiceAsOf_overdue h]
  by_cases hpast : pastDue invoice nowIso <;> simp [hpast]

theorem threshold_bounds : ∀ t ∈ stageThresholds, t.1 ≠ .issued ∧ -3 ≤ t.2 := by decide

/-- No reminder is due of an invoice exactly before its reminders begin. -/
theorem stage_quiet_iff {invoice : BillingInvoice} {nowIso : String} {now : ℤ}
    (hnow : Date.parse nowIso = some now) (h : Outstanding now invoice) :
    (∀ stage ∈ invoiceDunningStage (invoiceAsOf invoice nowIso) nowIso, stage = .issued) ↔
      BeforeReminders invoice now := by
  obtain ⟨hstatus, t, ht, hle⟩ := h
  unfold invoiceDunningStage
  rw [if_neg (invoiceAsOf_status hstatus nowIso), hnow,
    show Date.parse (invoiceAsOf invoice nowIso).issuedAt = some t from ht,
    show (invoiceAsOf invoice nowIso).dueAt = invoice.dueAt from rfl]
  cases hdue : Date.parse invoice.dueAt with
  | none =>
    constructor
    · intro _ due hdue'
      rw [hdue] at hdue'
      cases hdue'
    · intro _ stage hstage
      cases hstage
  | some due =>
    simp only [if_neg (not_lt.2 hle)]
    constructor
    · intro hquiet due' hdue'
      obtain rfl : due = due' := Option.some.inj (hdue.symm.trans hdue')
      by_contra hlate
      have hfound : (stageThresholds.find? fun t =>
          decide (now ≥ due + t.2 * Date.msPerDay)).isSome := by
        refine List.find?_isSome.2 ⟨(.dueSoon, -3), by simp [stageThresholds], ?_⟩
        simp only [decide_eq_true_eq]
        omega
      obtain ⟨t, ht⟩ := Option.isSome_iff_exists.1 hfound
      rw [ht] at hquiet
      exact (threshold_bounds t (List.mem_of_find?_eq_some ht)).1 (hquiet t.1 rfl)
    · intro hbefore
      have hlt := hbefore due hdue
      have hnone : (stageThresholds.find? fun t =>
          decide (now ≥ due + t.2 * Date.msPerDay)) = none := by
        refine List.find?_eq_none.2 fun t ht => ?_
        have hk := (threshold_bounds t ht).2
        rw [decide_eq_true_eq]
        rw [Date.msPerDay] at hlt ⊢
        omega
      rw [hnone]
      rintro stage hstage
      exact (Option.some.inj hstage).symm

end

/-! ## Paid invoices along a run -/

section

variable {K : Type} [Field K] [LinearOrder K] [FloorRing K]

/-- A run stores the invoice of a result whose net fee it charged. -/
structure IssuesPaid (x : JobRun K) (s : BillingState) (r : BillingMerchantResult K)
    (invoice : BillingInvoice) : Prop where
  result : r ∈ x.results s
  issued : issuedInvoice x.opts r = some invoice
  stored : x.storedAs s invoice.invoiceNumber = some invoice
  charged : ∃ receipt, .charge (chargeRequest r) receipt ∈ x.effects s ∧ receipt.status = .charged

/-- The invoice is in the table, and was charged for in the run that issued it. -/
def PaidIn (xs : List (DunningStep K)) (invoice : BillingInvoice) : Prop :=
  ∃ before x send delivered mid r, xs = before ++ .job x send delivered :: mid ∧
    IssuesPaid x (dunningState before).toBillingState r invoice ∧
    ∀ pre a post, mid = pre ++ a :: post →
      a.storedAs (dunningState (before ++ .job x send delivered :: pre)) invoice.invoiceNumber = none

/-- The status of an invoice does not go back, and its due date not forward. -/
structure KeepsStanding (old new : BillingInvoice) (nowIso : String) : Prop where
  status : (invoiceAsOf old nowIso).status = .paid ∨ (invoiceAsOf old nowIso).status = .overdue →
    (invoiceAsOf new nowIso).status ≠ .issued
  due : ∀ due, Date.parse old.dueAt = some due →
    ∃ due', Date.parse new.dueAt = some due' ∧ due' ≤ due

/-- No sweep charges or reminds a paid invoice, and no run of a month that was billed moves the
    standing of its invoice. -/
structure PaidNeverDunned (xs : List (DunningStep K)) : Prop where
  sweeps : ∀ before y after invoice, xs = before ++ .sweep y :: after → PaidIn before invoice →
    computeFinanceChargeMinor invoice y.nowIso = 0 ∧
    ∀ result ∈ y.results (dunningState before), result.invoiceNumber = invoice.invoiceNumber →
      ∀ stage ∈ result.stage, stage = .issued
  jobs : ∀ before x send delivered after, xs = before ++ .job x send delivered :: after →
    ∀ n old new, (dunningState before).invoices.get n = some old → old.period = x.period.label →
      (x.after (dunningState before).toBillingState).invoices.get n = some new →
      KeepsStanding old new x.opts.nowIso

/-- A run that bills a merchant again and stores its invoice gives it a due date that is not after
    the one of the invoice in the table. -/
def DueNoLater (x : JobRun K) (s : BillingState) : Prop :=
  ∀ r ∈ x.results s, r.statement.result.billable → 0 < r.economics.netBilledMinor →
    ∀ account, accountForMerchant x.opts.accounts r.merchantId = some account →
    x.storedAs s (invoiceNumberOf r) = issuedInvoice x.opts r →
    ∀ old, s.invoices.get (invoiceNumberOf r) = some old → old.period = x.period.label →
    ∀ due, Date.parse old.dueAt = some due → ∃ due',
      Date.parse (Date.toISOString
        (x.instant + account.feeSchedule.paymentTermsDays * Date.msPerDay)) = some due' ∧ due' ≤ due

theorem storedAs_before {before pre : List (DunningStep K)} {n : String} {invoice : BillingInvoice}
    (h : (dunningState before).invoices.get n = some invoice)
    (hpre : ∀ pre' a post, pre = pre' ++ a :: post →
      a.storedAs (dunningState (before ++ pre')) n = none) :
    (dunningState (before ++ pre)).invoices.get n = some invoice := by
  induction pre using List.reverseRecOn with
  | nil => rwa [List.append_nil]
  | append_singleton pre a ih =>
    have hkept := ih fun pre' b post heq => hpre pre' b (post ++ [a]) (by simp [heq])
    rw [← List.append_assoc, dunningState_concat, after_get, hpre pre a [] rfl]
    exact hkept

/-- A paid invoice stays in the table. -/
theorem PaidIn.get {xs : List (DunningStep K)} {invoice : BillingInvoice} (h : PaidIn xs invoice) :
    (dunningState xs).invoices.get invoice.invoiceNumber = some invoice := by
  obtain ⟨before, x, send, delivered, mid, r, rfl, hissues, hmid⟩ := h
  have hstored : (dunningState (before ++ [.job x send delivered])).invoices.get
      invoice.invoiceNumber = some invoice := by
    rw [dunningState_concat, after_get,
      show DunningStep.storedAs _ _ (.job x send delivered) = some invoice from hissues.stored]
    rfl
  have hkept := storedAs_before hstored fun pre a post heq => by
    rw [List.append_assoc]
    exact hmid pre a post heq
  rwa [List.append_assoc] at hkept

/-- The result of a sweep for an invoice in the table. -/
theorem sweep_result {xs : List (DunningStep K)} {invoice : BillingInvoice} (y : Sweep)
    (h : (dunningState xs).invoices.get invoice.invoiceNumber = some invoice) :
    (∀ result ∈ y.results (dunningState xs), result.invoiceNumber = invoice.invoiceNumber →
      ∀ stage ∈ result.stage, stage = .issued) ↔
    ∀ stage ∈ invoiceDunningStage (invoiceAsOf invoice y.nowIso) y.nowIso, stage = .issued := by
  have hresults := runSweep_results y.send (dunningState xs).sent y.nowIso
    (dunningState xs).invoices.values
  constructor
  · intro hall stage hstage
    have hmem : (invoice.invoiceNumber, invoiceDunningStage (invoiceAsOf invoice y.nowIso) y.nowIso) ∈
        (y.results (dunningState xs)).map fun r => (r.invoiceNumber, r.stage) := by
      rw [Sweep.results, hresults]
      exact List.mem_map.2 ⟨invoice, (mem_values (keptByNumber xs)).2 h, rfl⟩
    obtain ⟨result, hresult, heq⟩ := List.mem_map.1 hmem
    obtain ⟨hnumber, hsame⟩ := Prod.mk.inj heq
    exact hall result hresult hnumber stage (hsame ▸ hstage)
  · intro hquiet result hresult hnumber stage hstage
    have hmem : (result.invoiceNumber, result.stage) ∈ (dunningState xs).invoices.values.map
        fun i => (i.invoiceNumber, invoiceDunningStage (invoiceAsOf i y.nowIso) y.nowIso) := by
      rw [← hresults]
      exact List.mem_map.2 ⟨result, hresult, rfl⟩
    obtain ⟨i, hi, heq⟩ := List.mem_map.1 hmem
    obtain ⟨hsame, hstages⟩ := Prod.mk.inj heq
    have hget := (mem_values (keptByNumber xs)).1 hi
    rw [hsame, hnumber, h] at hget
    obtain rfl := Option.some.inj hget
    exact hquiet stage (hstages ▸ hstage)

/-- A run keeps the standing of the invoices of its month if and only if it gives none a later due
    date. -/
theorem keepsStanding_iff {x : JobRun K} {s : BillingState}
    (hs : ∀ n invoice, s.invoices.get n = some invoice → invoice.status = .issued) :
    (∀ n old new, s.invoices.get n = some old → old.period = x.period.label →
      (x.after s).invoices.get n = some new → KeepsStanding old new x.opts.nowIso) ↔
    DueNoLater x s := by
  constructor
  · intro h r hr hbillable hpos account ha hstored old hold hperiod due hdue
    obtain ⟨invoice, hissued⟩ := exists_issuedInvoice x.parsed hbillable hpos
      (Option.isSome_iff_exists.2 ⟨account, ha⟩)
    have hnew : (x.after s).invoices.get (invoiceNumberOf r) = some invoice := by
      rw [JobRun.after_invoices, hstored, hissued]
      rfl
    obtain ⟨-, -, account', ha', hdueAt⟩ := issuedInvoice_dates hissued x.parsed
    obtain rfl := Option.some.inj (ha.symm.trans ha')
    rw [← hdueAt]
    exact (h _ old invoice hold hperiod hnew).due due hdue
  · intro h n old new hold hperiod hnew
    rw [JobRun.after_invoices] at hnew
    cases hstored : x.storedAs s n with
    | none =>
      rw [hstored, Option.none_or, hold] at hnew
      obtain rfl := Option.some.inj hnew
      refine ⟨?_, fun due hdue => ⟨due, hdue, le_refl _⟩⟩
      rintro (hpaid | hoverdue)
      · rw [hpaid]
        simp
      · rw [hoverdue]
        simp
    | some stored =>
      rw [hstored] at hnew
      obtain rfl : stored = new := Option.some.inj hnew
      obtain ⟨hn, r, hr, hissued⟩ := JobRun.storedAs_cases hstored
      obtain ⟨-, hstatus, account, ha, hdueAt⟩ := issuedInvoice_dates hissued x.parsed
      obtain ⟨hbillable, hpos, -⟩ := issuedInvoice_itemizes ha hissued
      have hnumber := (issuedInvoice_drives (JobRun.results_mem hr) hissued).1
      rw [hnumber] at hn
      subst hn
      have hlater := h r hr hbillable hpos account ha (hstored.trans hissued.symm) old hold hperiod
      rw [← hdueAt] at hlater
      refine ⟨?_, hlater⟩
      rw [invoiceAsOf_overdue (hs _ _ hold), invoiceAsOf_overdue hstatus]
      intro hold'
      have hpast : pastDue old x.opts.nowIso = true := by
        by_contra hnot
        simp [hnot] at hold'
      obtain ⟨due, hdue, hlt⟩ := (pastDue_iff x.parsed).1 hpast
      obtain ⟨due', hdue', hle⟩ := hlater due hdue
      rw [if_pos ((pastDue_iff x.parsed).2 ⟨due', hdue', by omega⟩)]
      simp

/-- What was paid is never dunned, and no invoice goes back, if and only if each sweep is before
    the reminders of the paid invoices begin and no run gives an invoice a later due date. -/
theorem paid_never_dunned_iff (xs : List (DunningStep K)) (h : StepsInOrder xs) :
    PaidNeverDunned xs ↔
      (∀ before y after invoice, xs = before ++ .sweep y :: after → PaidIn before invoice →
        BeforeReminders invoice y.instant) ∧
      ∀ before x send delivered after, xs = before ++ .job x send delivered :: after →
        DueNoLater x (dunningState before).toBillingState := by
  have hstanding : ∀ before a after, xs = before ++ a :: after → ∀ n invoice,
      (dunningState before).invoices.get n = some invoice → Outstanding a.instant invoice := by
    rintro before a after rfl n invoice hget
    refine get_outstanding (fun b hb => ?_) hget
    exact (List.pairwise_append.1 h).2.2 b hb a List.mem_cons_self
  constructor
  · intro hnever
    constructor
    · intro before y after invoice hxs hpaid
      obtain ⟨-, hquiet⟩ := hnever.sweeps before y after invoice hxs hpaid
      exact (stage_quiet_iff y.parsed (hstanding before _ after hxs _ _ hpaid.get)).1
        ((sweep_result y hpaid.get).1 hquiet)
    · intro before x send delivered after hxs
      refine (keepsStanding_iff fun n invoice hget => ?_).1
        (hnever.jobs before x send delivered after hxs)
      exact (hstanding before _ after hxs n invoice hget).status
  · rintro ⟨hsweeps, hjobs⟩
    constructor
    · intro before y after invoice hxs hpaid
      have hbefore := hsweeps before y after invoice hxs hpaid
      refine ⟨financeCharge_eq_zero y.parsed hbefore, (sweep_result y hpaid.get).2 ?_⟩
      exact (stage_quiet_iff y.parsed (hstanding before _ after hxs _ _ hpaid.get)).2 hbefore
    · intro before x send delivered after hxs
      refine (keepsStanding_iff fun n invoice hget => ?_).2 (hjobs before x send delivered after hxs)
      exact (hstanding before _ after hxs n invoice hget).status

end

namespace Sample

/-- The account on the default schedule. -/
def paidAccount : BillingAccount :=
  { autoPayAccount with feeSchedule := ⟨12 / 100, "USD", 14, 15 / 1000⟩ }

/-- A live run of January on the first of February; the card is charged. -/
def paidRun : JobRun ℚ where
  activity := cohort "2026-01-15"
  quiet := cohort_quiet
  opts :=
    { toBillingRunOptions := { billing upliftConfig "2026-02-01T06:00:00.000Z" with
        live := true
        charger := stripeCharge (accountForMerchant [paidAccount])
          fun _ => .intent (some "succeeded") (some "pi_1") false
        onboardedAt := onboardedAtOf [paidAccount] }
      clock := fun _ => "2026-02-01T06:00:01.250Z"
      accounts := [paidAccount]
      remitTo := "billing@ax10m.example" }
  instant := 1769925600000
  parsed := february_first
  stop := 3

/-- The run as a step. -/
def paidStep : DunningStep ℚ :=
  .job paidRun (fun _ _ => { status := .sent, provider := "postmark" }) 1

theorem february_fifth : Date.parse "2026-02-05T06:00:00.000Z" = some 1770271200000 := by
  decide +kernel

theorem february_26 : Date.parse "2026-02-26T06:00:00.000Z" = some 1772085600000 := by
  decide +kernel

/-- A sweep on the fifth of February. -/
def earlySweep : Sweep where
  nowIso := "2026-02-05T06:00:00.000Z"
  instant := 1770271200000
  parsed := february_fifth
  send := fun _ _ => { status := .sent, provider := "postmark" }

/-- A sweep on the twenty-sixth. -/
def lateSweep : Sweep where
  nowIso := "2026-02-26T06:00:00.000Z"
  instant := 1772085600000
  parsed := february_26
  send := fun _ _ => { status := .sent, provider := "postmark" }

/-- The run charges what it bills, and issues the invoice of it. -/
theorem paidRun_issues :
    ∃ r invoice, IssuesPaid paidRun {} r invoice ∧
      (invoice.invoiceNumber, invoice.dueAt, computeFinanceChargeMinor invoice lateSweep.nowIso) =
        ("AX-MRC-1-2026-01", "2026-02-15T06:00:00.000Z", 7) := by
  have hlength : (paidRun.results {}).length = 1 := by decide +kernel
  have hall : ∀ r ∈ paidRun.results {}, r.merchantId = "mrc_1" ∧ r.statement.result.billable ∧
      0 < r.economics.netBilledMinor ∧ ∃ receipt ∈ r.charge, receipt.status = .charged := by
    decide +kernel
  have hinvoices : ((paidRun.results {}).filterMap (issuedInvoice paidRun.opts)).map
      (fun i => (i.invoiceNumber, i.dueAt, computeFinanceChargeMinor i lateSweep.nowIso)) =
        [("AX-MRC-1-2026-01", "2026-02-15T06:00:00.000Z", 7)] := by decide +kernel
  obtain ⟨r, hr⟩ := List.length_eq_one_iff.1 hlength
  obtain ⟨hm, hbillable, hnet, receipt, hreceipt, hstatus⟩ := hall r (by simp [hr])
  have hcharge : r.charge = some receipt := hreceipt
  have hmem : r ∈ paidRun.results {} := by
    rw [hr]
    exact List.mem_singleton_self r
  have haccount : (accountForMerchant paidRun.opts.accounts r.merchantId).isSome := by
    rw [hm]
    decide
  obtain ⟨invoice, hissued⟩ := exists_issuedInvoice paidRun.parsed hbillable hnet haccount
  have heffects : paidRun.effects {} = [.append (statementEntry paidRun.opts.nowIso r),
      .charge (chargeRequest r) receipt, .upsertInvoice invoice] := by
    rw [JobRun.effects, hr]
    simp only [jobEffects, merchantEffects, hcharge, List.flatMap_cons, List.flatMap_nil,
      List.filterMap_cons, hissued, List.filterMap_nil, List.map_cons, List.map_nil]
    rfl
  refine ⟨r, invoice, ⟨hmem, hissued, ?_, receipt, ?_, hstatus⟩, ?_⟩
  · rw [JobRun.storedAs, heffects]
    simp [List.filterMap_cons, JobEffect.stored]
  · rw [heffects]
    simp
  · rw [hr] at hinvoices
    simpa [List.filterMap_cons, hissued] using hinvoices

theorem paidStep_paid {invoice : BillingInvoice} {r : BillingMerchantResult ℚ}
    (h : IssuesPaid paidRun {} r invoice) : PaidIn [paidStep] invoice := by
  refine ⟨[], paidRun, _, _, [], r, rfl, h, ?_⟩
  intro pre a post heq
  cases pre <;> cases heq

end Sample

/-- The net fee of January is charged in the run that issues the invoice; eleven days after the due
    date a notice is sent for it all the same, with a finance charge. -/
theorem paid_never_dunned_fails :
    (∃ invoice, PaidIn [Sample.paidStep] invoice ∧
      computeFinanceChargeMinor invoice Sample.lateSweep.nowIso = 7) ∧
    (Sample.lateSweep.results (dunningState [Sample.paidStep])).map
        (fun r => (r.invoiceNumber, r.stage, r.status)) =
      [("AX-MRC-1-2026-01", some .overdue2, .sent)] ∧
    ¬ PaidNeverDunned [Sample.paidStep, .sweep Sample.lateSweep] := by
  obtain ⟨r, invoice, hissues, htexts⟩ := Sample.paidRun_issues
  have hcharge : computeFinanceChargeMinor invoice Sample.lateSweep.nowIso = 7 :=
    congrArg (fun p => p.2.2) htexts
  have hpaid := Sample.paidStep_paid hissues
  refine ⟨⟨invoice, hpaid, hcharge⟩, by decide +kernel, fun h => ?_⟩
  obtain ⟨hzero, -⟩ := h.sweeps [Sample.paidStep] Sample.lateSweep [] invoice rfl hpaid
  rw [hcharge] at hzero
  cases hzero

/-- Four days after it is issued, the paid invoice is not reminded of. -/
theorem paid_never_dunned_early :
    PaidNeverDunned [Sample.paidStep, .sweep Sample.earlySweep] := by
  have horder : StepsInOrder [Sample.paidStep, .sweep Sample.earlySweep] := by
    refine List.pairwise_pair.2 ?_
    show (1769925600000 : ℤ) ≤ 1770271200000
    omega
  refine (paid_never_dunned_iff _ horder).2 ⟨?_, ?_⟩
  · intro before y after invoice heq hpaid due hdue
    obtain ⟨rfl, rfl⟩ : before = [Sample.paidStep] ∧ y = Sample.earlySweep := by
      cases before with
      | nil => cases heq
      | cons a before =>
        obtain ⟨rfl, htail⟩ := List.cons.inj heq
        cases before with
        | nil =>
          obtain ⟨hy, -⟩ := List.cons.inj htail
          exact ⟨rfl, (DunningStep.sweep.inj hy).symm⟩
        | cons b before => cases before <;> cases (List.cons.inj htail).2
    have hdates : ∀ i ∈ (dunningState [Sample.paidStep]).invoices.values,
        Date.parse i.dueAt = some 1771135200000 := by decide +kernel
    rw [hdates invoice ((mem_values (keptByNumber _)).2 hpaid.get)] at hdue
    obtain rfl := Option.some.inj hdue
    show (1770271200000 : ℤ) < 1771135200000 - 3 * Date.msPerDay
    rw [Date.msPerDay]
    omega
  · intro before x send delivered after heq r hr _ _ account _ _ old hold
    cases before with
    | nil => cases hold
    | cons a before =>
      obtain ⟨-, htail⟩ := List.cons.inj heq
      cases before with
      | nil => cases htail
      | cons b before => cases before <;> cases (List.cons.inj htail).2

end AX10M
