/-
  What the cohorts of disjoint periods say together (`billing/observations.ts`).

  Every assignment in a period is an observation, and each has the whole net of its invoice as its
  outcome.  So the invoices are observed once, and their outcomes sum to their net, if and only if
  no invoice was assigned twice in the periods (`observed_once_iff`).
-/
import AX10M.Billing.Books
import AX10M.Billing.Observations
import AX10M.Logs.Totals
import AX10M.Recovery.Opening
import AX10M.Recovery.Outcome

namespace AX10M

open Js Logs

/-- The time lies in the period. -/
def BillingPeriod.Contains (p : BillingPeriod) (t : ℤ) : Prop := p.startMs ≤ t ∧ t < p.endMs

/-- No time lies in two of the periods. -/
def DisjointPeriods (periods : List BillingPeriod) : Prop :=
  periods.Pairwise fun p q => ∀ t, p.Contains t → ¬ q.Contains t

/-- The invoice that an entry assigns to an arm. -/
def invoiceOf (e : LedgerEntry) : Option String := do
  let invoiceId ← str (e.field "invoiceId")
  let _ ← bucketOf e
  return invoiceId

/-- The invoices that are assigned in some of the periods, once for each assignment. -/
def assignedInvoices (entries : List LedgerEntry) (m : String) (periods : List BillingPeriod) :
    List String :=
  (entries.filter fun e => periods.any fun p => assignedIn e m p).filterMap invoiceOf

/-- The observation of an assignment, with its invoice. -/
def observedAs (net : Map String ℚ) (e : LedgerEntry) :
    Option (String × UpliftObservation ℚ) := do
  let invoiceId ← invoiceOf e
  let o ← observationOf net e
  return (invoiceId, o)

/-- The cohort of a merchant and a period, each observation with its invoice. -/
def observedCohort (entries : List LedgerEntry) (m : String) (p : BillingPeriod) :
    List (String × UpliftObservation ℚ) :=
  (entries.filter fun e => assignedIn e m p).filterMap (observedAs (netByInvoice entries m))

/-- What was recovered of some invoices, less what was reversed of them, and what was reversed and
    reverted. -/
def netOf (entries : List LedgerEntry) (m : String) (invoices : List String) : ℚ :=
  ((entries.filter fun e => e.merchantId = m).filter fun e =>
    (str (e.field "invoiceId")).any (· ∈ invoices)).filterMap netChange |>.sum

theorem observedAs_fst (net : Map String ℚ) (e : LedgerEntry) :
    (observedAs net e).map Prod.fst = invoiceOf e := by
  rw [observedAs, invoiceOf, observationOf]
  cases str (e.field "invoiceId") with
  | none => rfl
  | some i =>
    cases bucketOf e with
    | none => rfl
    | some arm => rfl

theorem observedAs_snd (net : Map String ℚ) (e : LedgerEntry) :
    (observedAs net e).map Prod.snd = observationOf net e := by
  rw [observedAs, invoiceOf, observationOf]
  cases str (e.field "invoiceId") with
  | none => rfl
  | some i =>
    cases bucketOf e with
    | none => rfl
    | some arm => rfl

/-- An observation has the net of its invoice as its outcome. -/
theorem observedAs_outcome {net : Map String ℚ} {e : LedgerEntry} {x : String × UpliftObservation ℚ}
    (h : observedAs net e = some x) : x.2.outcome = (net.get x.1).getD 0 := by
  rw [observedAs, invoiceOf, observationOf] at h
  cases hi : str (e.field "invoiceId") with
  | none => simp [hi] at h
  | some i =>
    cases ha : bucketOf e with
    | none => simp [hi, ha] at h
    | some arm =>
      simp only [hi, ha, Option.bind_eq_bind, Option.bind_some, Option.pure_def,
        Option.some.injEq] at h
      subst h
      rfl

variable (entries : List LedgerEntry) (m : String)

/-- The observations are those of the source. -/
theorem observedCohort_snd (p : BillingPeriod) :
    (observedCohort entries m p).map Prod.snd = reconstructObservations entries m p := by
  rw [observedCohort, reconstructObservations, List.map_filterMap]
  simp only [observedAs_snd]

theorem observedCohort_fst (p : BillingPeriod) :
    (observedCohort entries m p).map Prod.fst =
      (entries.filter fun e => assignedIn e m p).filterMap invoiceOf := by
  rw [observedCohort, List.map_filterMap]
  simp only [observedAs_fst]

theorem outcomes_eq (p : BillingPeriod) :
    (reconstructObservations entries m p).map UpliftObservation.outcome =
      ((observedCohort entries m p).map Prod.fst).map fun i =>
        ((netByInvoice entries m).get i).getD 0 := by
  rw [← observedCohort_snd, List.map_map, List.map_map]
  refine List.map_congr_left fun x hx => ?_
  obtain ⟨e, -, he⟩ := List.mem_filterMap.1 hx
  exact observedAs_outcome he

/-- An entry is assigned in at most one of disjoint periods. -/
theorem assignedIn_disjoint {p q : BillingPeriod} (h : ∀ t, p.Contains t → ¬ q.Contains t)
    {e : LedgerEntry} (hp : assignedIn e m p) (hq : assignedIn e m q) : False := by
  simp only [assignedIn, Bool.and_eq_true] at hp hq
  cases ht : Date.parse e.occurredAt with
  | none => simp [ht] at hp
  | some t =>
    simp only [ht, decide_eq_true_eq] at hp hq
    exact h t hp.2 hq.2

/-- The invoices that are observed are those that are assigned, in another order. -/
theorem observed_perm {periods : List BillingPeriod} (h : DisjointPeriods periods) :
    ((periods.flatMap (observedCohort entries m)).map Prod.fst).Perm
      (assignedInvoices entries m periods) := by
  have hperm := flatMap_filter_perm periods (fun p e => assignedIn e m p) entries
    (h.imp fun hpq e _ => assignedIn_disjoint m hpq)
  have hcohorts : (periods.flatMap (observedCohort entries m)).map Prod.fst =
      (periods.flatMap fun p => entries.filter fun e => assignedIn e m p).filterMap invoiceOf := by
    rw [List.map_flatMap, List.filterMap_flatMap]
    simp only [observedCohort_fst]
  rw [hcohorts]
  exact hperm.filterMap invoiceOf

/-- The nets of some invoices sum to what was recovered of them. -/
theorem sum_net {invoices : List String} (h : invoices.Nodup) :
    (invoices.map fun i => ((netByInvoice entries m).get i).getD 0).sum =
      netOf entries m invoices := by
  have hget : ∀ i, ((netByInvoice entries m).get i).getD 0 =
      (((entries.filter fun e => e.merchantId = m).filter fun e =>
        str (e.field "invoiceId") = some i).filterMap netChange).sum := by
    intro i
    rw [netByInvoice_get, List.filter_filter]
    refine congrArg (fun l => (List.filterMap netChange l).sum) (List.filter_congr fun e _ => ?_)
    simp [Bool.and_comm]
  simp only [hget]
  exact sum_by_name (fun e : LedgerEntry => str (e.field "invoiceId")) netChange _ h

/-- Over disjoint periods, no invoice is observed twice and the outcomes sum to the net of the
    invoices that are assigned in them, if and only if no invoice is assigned in them twice. -/
theorem observed_once_iff {periods : List BillingPeriod} (h : DisjointPeriods periods) :
    (((periods.flatMap (observedCohort entries m)).map Prod.fst).Nodup ∧
      ((periods.flatMap (reconstructObservations entries m)).map UpliftObservation.outcome).sum =
        netOf entries m (assignedInvoices entries m periods)) ↔
    (assignedInvoices entries m periods).Nodup := by
  have hperm := observed_perm entries m h
  constructor
  · rintro ⟨hnodup, -⟩
    exact hperm.nodup_iff.1 hnodup
  · intro hnodup
    refine ⟨hperm.nodup_iff.2 hnodup, ?_⟩
    have houtcomes :
        (periods.flatMap (reconstructObservations entries m)).map UpliftObservation.outcome =
          ((periods.flatMap (observedCohort entries m)).map Prod.fst).map fun i =>
            ((netByInvoice entries m).get i).getD 0 := by
      rw [List.map_flatMap, List.map_flatMap, List.map_flatMap]
      simp only [outcomes_eq]
    rw [houtcomes, (hperm.map _).sum_eq]
    exact sum_net entries m hnodup

namespace Sample

/-- The sample invoice is delivered, the process is restarted, and the invoice is delivered again
    and recovered. -/
def assignedTwice : List LedgerEntry :=
  (Fleet.run service env (Fleet.init () fun _ => 1786881600000)
    [.deliver 0 opening true, .restart 0, .deliver 0 opening true]).1.ledger ++
    [moved .caseRecovered "inv_1" 100 "2026-08-20T00:00:00.000Z"]

end Sample

/-- The invoice is observed twice, and its 100 are counted as 200. -/
theorem observed_once_fails :
    (observedCohort Sample.assignedTwice "mrc_1" Sample.august).map Prod.fst =
        ["inv_1", "inv_1"] ∧
      ((reconstructObservations Sample.assignedTwice "mrc_1" Sample.august).map
        UpliftObservation.outcome).sum = 200 ∧
      netOf Sample.assignedTwice "mrc_1"
        (assignedInvoices Sample.assignedTwice "mrc_1" [Sample.august]) = 100 := by
  decide +kernel

/-- A cohort of one month, with two invoices recovered. -/
theorem observed_once_cohort :
    ((reconstructObservations (Sample.cohort "2026-01-15") "mrc_1" (monthBefore 1769925600000)).map
      UpliftObservation.outcome).sum = netOf (Sample.cohort "2026-01-15") "mrc_1"
        (assignedInvoices (Sample.cohort "2026-01-15") "mrc_1" [monthBefore 1769925600000]) := by
  have hnodup : (assignedInvoices (Sample.cohort "2026-01-15") "mrc_1"
      [monthBefore 1769925600000]).Nodup := by decide +kernel
  have hsum := ((observed_once_iff (Sample.cohort "2026-01-15") "mrc_1"
    (List.pairwise_singleton _ _)).2 hnodup).2
  rwa [List.flatMap_singleton] at hsum

end AX10M
