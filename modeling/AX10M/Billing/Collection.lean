/-
  Live runs of the billing job one after the other (`billing/billing-job.ts`), and what they leave
  in the ledger and in the table of invoices (`@ax10m/persistence`, `billing-repo.ts`).

  A run reads the ledger, and its effects are made in their order until the process ends, which may
  be early.  Invoices are kept by their numbers, and a new one replaces the old
  (`JobRun.after_invoices`).
-/
import AX10M.Billing.Job

namespace AX10M

open Js Logs

/-- The ledger and the invoices. -/
structure BillingState where
  ledger : List LedgerEntry := []
  invoices : Map String BillingInvoice := Map.empty

/-- `upsertInvoice`: an invoice replaces the one of its number. -/
def BillingState.upsertInvoice (s : BillingState) (invoice : BillingInvoice) : BillingState :=
  { s with invoices := s.invoices.set invoice.invoiceNumber invoice }

/-- What an effect changes; a charge changes nothing here. -/
def JobEffect.apply (s : BillingState) : JobEffect → BillingState
  | .append entry => { s with ledger := s.ledger ++ [entry] }
  | .charge _ _ => s
  | .upsertInvoice invoice => s.upsertInvoice invoice

/-- The entry that an effect appends. -/
def JobEffect.appended : JobEffect → Option LedgerEntry
  | .append entry => some entry
  | _ => none

/-- The invoice that an effect stores. -/
def JobEffect.stored : JobEffect → Option BillingInvoice
  | .upsertInvoice invoice => some invoice
  | _ => none

/-- Effects append their entries in order, and store their invoices in order. -/
theorem apply_foldl (s : BillingState) (effects : List JobEffect) :
    (effects.foldl JobEffect.apply s).ledger = s.ledger ++ effects.filterMap JobEffect.appended ∧
      (effects.foldl JobEffect.apply s).invoices =
        (effects.filterMap JobEffect.stored).foldl (fun m i => m.set i.invoiceNumber i) s.invoices := by
  induction effects generalizing s with
  | nil => simp
  | cons effect effects ih =>
    obtain ⟨hledger, hinvoices⟩ := ih (effect.apply s)
    rw [List.foldl_cons, hledger, hinvoices]
    cases effect with
    | append entry =>
      simp [JobEffect.apply, List.filterMap_cons, JobEffect.appended, JobEffect.stored]
    | charge request receipt =>
      simp [JobEffect.apply, List.filterMap_cons, JobEffect.appended, JobEffect.stored]
    | upsertInvoice invoice =>
      simp [JobEffect.apply, List.filterMap_cons, JobEffect.appended, JobEffect.stored,
        BillingState.upsertInvoice]

/-- Of the invoices of one number the last one is kept. -/
theorem get_foldl_set (m : Map String BillingInvoice) (l : List BillingInvoice) (n : String) :
    (l.foldl (fun m i => m.set i.invoiceNumber i) m).get n =
      ((l.filter fun i => i.invoiceNumber = n).getLast?).or (m.get n) := by
  induction l using List.reverseRecOn with
  | nil => rfl
  | append_singleton l i ih =>
    rw [List.foldl_append, List.foldl_cons, List.foldl_nil, Map.get_set, ih, List.filter_append]
    by_cases hn : i.invoiceNumber = n
    · simp [hn]
    · simp [hn, Ne.symm hn]

/-- A run of the job, after what the service appended. -/
structure JobRun (K : Type) where
  activity : List LedgerEntry
  /-- only runs record statements -/
  quiet : ∀ e ∈ activity, e.type ≠ .upliftStatement
  opts : BillingJobOptions K
  instant : ℤ
  parsed : Date.parse opts.nowIso = some instant
  /-- how many of the effects are made before the process ends -/
  stop : ℕ

namespace JobRun

variable {K : Type}

/-- The run as a month of the books. -/
def month (x : JobRun K) : Month K where
  activity := x.activity
  quiet := x.quiet
  opts := x.opts.toBillingRunOptions
  instant := x.instant
  parsed := x.parsed

/-- The month that is billed. -/
def period (x : JobRun K) : BillingPeriod := monthBefore x.instant

/-- The entries that a run reads. -/
def entries (x : JobRun K) (s : BillingState) : List LedgerEntry := s.ledger ++ x.activity

variable [Field K] [LinearOrder K] [FloorRing K]

/-- The results of a run. -/
def results (x : JobRun K) (s : BillingState) : List (BillingMerchantResult K) :=
  jobResults x.opts (x.entries s)

/-- The effects that a run makes. -/
def effects (x : JobRun K) (s : BillingState) : List JobEffect :=
  (jobEffects x.opts (x.results s)).take x.stop

/-- The state after a run. -/
def after (x : JobRun K) (s : BillingState) : BillingState :=
  (x.effects s).foldl JobEffect.apply { s with ledger := x.entries s }

/-- The last invoice of a number that a run stores. -/
def storedAs (x : JobRun K) (s : BillingState) (n : String) : Option BillingInvoice :=
  (((x.effects s).filterMap JobEffect.stored).filter fun i => i.invoiceNumber = n).getLast?

end JobRun

section

variable {K : Type} [Field K] [LinearOrder K] [FloorRing K]

/-- The state after some runs. -/
def jobState (xs : List (JobRun K)) : BillingState := xs.foldl (fun s x => x.after s) {}

theorem jobState_concat (xs : List (JobRun K)) (x : JobRun K) :
    jobState (xs ++ [x]) = x.after (jobState xs) := by
  simp [jobState]

namespace JobRun

variable {x : JobRun K} {s : BillingState} {r : BillingMerchantResult K}

/-- The invoice under a number after a run. -/
theorem after_invoices (x : JobRun K) (s : BillingState) (n : String) :
    (x.after s).invoices.get n = (x.storedAs s n).or (s.invoices.get n) := by
  rw [after, (apply_foldl _ _).2, get_foldl_set]
  rfl

theorem results_mem (hr : r ∈ x.results s) :
    Billed (x.opts.at r.merchantId) (x.entries s) x.period r.merchantId r := by
  obtain ⟨-, period, hp, hbilled⟩ := jobResults_mem hr
  have hperiod : previousMonth x.opts.nowIso = .ok x.period := by
    rw [previousMonth, x.parsed]
    rfl
  obtain rfl : period = x.period := Except.ok.inj (hp.symm.trans hperiod)
  exact hbilled

omit [Field K] [LinearOrder K] [FloorRing K] in
/-- What all effects of a job append. -/
theorem appended_jobEffects (opts : BillingJobOptions K) (results : List (BillingMerchantResult K)) :
    (jobEffects opts results).filterMap JobEffect.appended =
      results.map (statementEntry opts.nowIso) := by
  have hinvoices : ((results.filterMap (issuedInvoice opts)).map JobEffect.upsertInvoice).filterMap
      JobEffect.appended = [] := by
    rw [List.filterMap_map]
    exact List.filterMap_eq_nil_iff.2 fun _ _ => rfl
  have hmerchant : ∀ r, (merchantEffects opts r).filterMap JobEffect.appended =
      [statementEntry opts.nowIso r] := by
    intro r
    rw [merchantEffects]
    cases r.charge <;> rfl
  rw [jobEffects, List.filterMap_append, hinvoices, List.append_nil, List.filterMap_flatMap]
  simp only [hmerchant]
  exact List.flatMap_pure_eq_map _ _

/-- The results whose statements are appended before the process ends. -/
def recorded (x : JobRun K) (s : BillingState) : List (BillingMerchantResult K) :=
  (x.results s).take ((x.effects s).filterMap JobEffect.appended).length

theorem appended_effects (x : JobRun K) (s : BillingState) :
    (x.effects s).filterMap JobEffect.appended =
      (x.recorded s).map (statementEntry x.opts.nowIso) := by
  have hsub : (x.effects s).filterMap JobEffect.appended <+:
      (x.results s).map (statementEntry x.opts.nowIso) := by
    rw [← appended_jobEffects]
    exact (List.take_prefix _ _).filterMap _
  rw [recorded, List.map_take, ← List.prefix_iff_eq_take.1 hsub]

theorem after_ledger (x : JobRun K) (s : BillingState) :
    (x.after s).ledger = x.entries s ++ (x.recorded s).map (statementEntry x.opts.nowIso) := by
  rw [← appended_effects]
  exact (apply_foldl _ _).1

theorem recorded_nodup (x : JobRun K) (s : BillingState) :
    ((x.recorded s).map BillingMerchantResult.merchantId).Nodup :=
  (jobResults_nodup _ _).sublist ((List.take_sublist _ _).map _)

/-- A result of whose statement the append is made is among them. -/
theorem mem_recorded (hr : r ∈ x.results s)
    (hrec : .append (statementEntry x.opts.nowIso r) ∈ x.effects s) : r ∈ x.recorded s := by
  have hmem : statementEntry x.opts.nowIso r ∈
      (x.recorded s).map (statementEntry x.opts.nowIso) := by
    rw [← appended_effects]
    exact List.mem_filterMap.2 ⟨_, hrec, rfl⟩
  obtain ⟨r', hr', hentry⟩ := List.mem_map.1 hmem
  have hname : r'.merchantId = r.merchantId := congrArg LedgerEntry.merchantId hentry
  obtain rfl := List.inj_on_of_nodup_map (jobResults_nodup _ _) (List.mem_of_mem_take hr') hr hname
  exact hr'

/-- What a run leaves of the statements of a merchant: one more, if it is recorded. -/
theorem statements_after (x : JobRun K) (s : BillingState) (m : String) :
    statements (x.after s).ledger m = statements s.ledger m ++
      ((x.recorded s).filter fun r => r.merchantId = m).map fun r =>
        (x.instant, statementEntry x.opts.nowIso r) := by
  have hentries : statements (x.entries s) m = statements s.ledger m :=
    statements_entries (⟨s.ledger, []⟩ : BillingBooks K) x.month m
  rw [after_ledger, statements_append, hentries]
  exact congrArg _ (statements_statementEntry x.month _ m)

/-- A result that is recorded is the last statement of its merchant. -/
theorem statements_recorded (hr : r ∈ x.recorded s) :
    statements (x.after s).ledger r.merchantId =
      statements s.ledger r.merchantId ++ [(x.instant, statementEntry x.opts.nowIso r)] := by
  rw [statements_after]
  rcases filter_named (x.recorded_nodup s) r.merchantId with hnil | ⟨r', hr', hname, hone⟩
  · exact absurd (List.filter_eq_nil_iff.1 hnil r hr) (by simp)
  · obtain rfl := List.inj_on_of_nodup_map (x.recorded_nodup s) hr' hr hname
    rw [hone]
    rfl

/-- An invoice that a run leaves under a number was issued for a result. -/
theorem storedAs_cases {n : String} {invoice : BillingInvoice}
    (h : x.storedAs s n = some invoice) :
    invoice.invoiceNumber = n ∧ ∃ r ∈ x.results s, issuedInvoice x.opts r = some invoice := by
  obtain ⟨hstored, hnumber⟩ := List.mem_filter.1 (List.mem_of_getLast? h)
  obtain ⟨effect, heffect, he⟩ := List.mem_filterMap.1 hstored
  refine ⟨of_decide_eq_true hnumber, ?_⟩
  rcases List.mem_append.1 (List.mem_of_mem_take heffect) with hmerchant | hinvoice
  · obtain ⟨r, -, hr⟩ := List.mem_flatMap.1 hmerchant
    have hnone : effect.stored = none := by
      rw [merchantEffects] at hr
      cases hc : r.charge <;> simp [hc] at hr
      · rw [hr]
        rfl
      · rcases hr with rfl | rfl <;> rfl
    rw [hnone] at he
    cases he
  · obtain ⟨issued, hissued, rfl⟩ := List.mem_map.1 hinvoice
    obtain rfl : issued = invoice := Option.some.inj he
    exact List.mem_filterMap.1 hissued

end JobRun

/-- The runs are made one after the other. -/
def RunsInOrder (xs : List (JobRun K)) : Prop := xs.Pairwise fun x y => x.instant ≤ y.instant

/-- Statements are recorded at the instants of the runs. -/
theorem jobState_instant {xs : List (JobRun K)} {m : String} {p : ℤ × LedgerEntry}
    (h : p ∈ statements (jobState xs).ledger m) : ∃ x ∈ xs, p.1 = x.instant := by
  induction xs using List.reverseRecOn with
  | nil => cases h
  | append_singleton xs x ih =>
    rw [jobState_concat, JobRun.statements_after] at h
    rcases List.mem_append.1 h with h | h
    · obtain ⟨y, hy, he⟩ := ih h
      exact ⟨y, List.mem_append_left _ hy, he⟩
    · obtain ⟨r, -, rfl⟩ := List.mem_map.1 h
      exact ⟨x, by simp, rfl⟩

/-- No statement before a run is later than the run. -/
theorem jobState_le {xs : List (JobRun K)} {x : JobRun K} (h : RunsInOrder (xs ++ [x])) {m : String}
    {p : ℤ × LedgerEntry} (hp : p ∈ statements (jobState xs).ledger m) : p.1 ≤ x.instant := by
  obtain ⟨y, hy, he⟩ := jobState_instant hp
  rw [he]
  exact (List.pairwise_append.1 h).2.2 y hy x (by simp)

end

end AX10M
