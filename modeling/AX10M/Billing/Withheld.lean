/-
  Statements that a gate withholds.

  A statement is recorded with its lower bound whether or not its fee was computed, and
  the reader of the watermark takes the latest one.  So the watermark counts only
  dollars whose fee was computed exactly if the latest statement is such a one, or
  records the bound of the latest such one (`withheld_counted`).
-/
import AX10M.Billing.Books

namespace AX10M

open Js Logs

/-! ## Ledgers -/

/-- The fee of a recorded statement was computed: it is billable, or a credit. -/
def LedgerEntry.settled (e : LedgerEntry) : Bool :=
  (match e.field "billable" with
    | some (.bool b) => b
    | _ => false) || decide (num (e.field "billableIncrement") < 0)

/-- The ledger without the statements whose fee was not computed. -/
def settledOnly (entries : List LedgerEntry) : List LedgerEntry :=
  entries.filter fun e => e.settled || e.type ≠ .upliftStatement

/-- The statements of a merchant whose fee was computed. -/
def settledStatements (entries : List LedgerEntry) (m : String) : List (ℤ × LedgerEntry) :=
  (statements entries m).filter fun p => p.2.settled

theorem statements_settledOnly (entries : List LedgerEntry) (m : String) :
    statements (settledOnly entries) m = settledStatements entries m := by
  rw [statements, settledOnly, settledStatements, statements, List.filterMap_filter,
    List.filter_filterMap]
  refine List.filterMap_congr fun e _ => ?_
  cases hat : statementAt m e with
  | none => simp
  | some p =>
    obtain ⟨ht, rfl⟩ := statementAt_eq_some hat
    simp [ht, Option.filter]

/-- The latest statement of a merchant is one whose fee was computed, or records the bound of the
    latest of these (`0` if there is none). -/
def LatestSettled (entries : List LedgerEntry) (m : String) : Prop :=
  ∀ p, IsLatest (statements entries m) p → p.2.settled ∨
    (∃ q, IsLatest (settledStatements entries m) q ∧ p.2.bound = q.2.bound) ∨
    settledStatements entries m = [] ∧ p.2.bound = 0

/-- The watermark counts only dollars whose fee was computed exactly if so. -/
theorem priorBilled_settledOnly (entries : List LedgerEntry) (m : String) :
    priorBilledFromLedger entries m = priorBilledFromLedger (settledOnly entries) m ↔
      LatestSettled entries m := by
  rw [priorBilled_eq, priorBilled_eq, statements_settledOnly]
  simp only [LatestSettled, ← latest_eq_some_iff, ← latest_eq_none_iff]
  rcases hl : latest (statements entries m) with _ | p
  · have hs : settledStatements entries m = [] := by
      rw [settledStatements, latest_eq_none_iff.1 hl, List.filter_nil]
    simp [hs, keptOf]
  · simp only [Option.some.injEq, forall_eq']
    by_cases hp : p.2.settled
    · have hl' : latest (settledStatements entries m) = some p :=
        latest_eq_some_iff.2 ((latest_eq_some_iff.1 hl).filter hp)
      simp [hl', hp]
    · rcases latest (settledStatements entries m) with _ | q <;> simp [keptOf, hp]

/-! ## Runs -/

section

variable {K : Type}

@[simp] theorem statementEntry_settled (nowIso : String) (r : BillingMerchantResult K) :
    (statementEntry nowIso r).settled = r.statement.result.settled := by
  simp [LedgerEntry.settled, LedgerEntry.field, statementEntry, Record.get_cons,
    BillableUpliftResult.settled]

variable [Field K] [LinearOrder K] [FloorRing K]

/-- The run proves more dollars of its cohort than the watermark, but a gate withholds them. -/
def Withholds (m : String) (b : BillingBooks K) (x : Month K) : Prop :=
  let measured := measureCohort x.opts.ctx (b.entries x) m x.period
  measured.billable = false ∧ priorBilledFromLedger (b.entries x) m < measured.lowerDollars

theorem Bills.withheld_iff {b : BillingBooks K} {x : Month K} {m : String} {r : BillingMerchantResult K}
    (h : Bills x.opts (b.entries x) x.period m r) :
    r.statement.result.withheld ↔ Withholds m b x := by
  simp only [Withholds, BillableUpliftResult.withheld, h.increment, h.billable, h.lower, sub_pos]

/-- In runs that withhold nothing, the watermark counts only dollars whose fee was computed. -/
theorem priorBilled_unwithheld {xs : List (Month K)} (hxs : InOrder xs) {m : String}
    (h : EveryRun (fun b x => ¬ Withholds m b x) xs) :
    priorBilledFromLedger (books xs).ledger m =
      priorBilledFromLedger (settledOnly (books xs).ledger) m := by
  induction xs using List.reverseRecOn with
  | nil => rfl
  | append_singleton xs x ih =>
    obtain ⟨hinit, hx⟩ := hxs.init
    obtain ⟨hold, hnow⟩ := everyRun_concat.1 h
    have ih := ih hinit hold
    rw [priorBilled_eq, priorBilled_eq, statements_settledOnly] at ih
    rw [books_concat, priorBilled_eq, priorBilled_eq, statements_settledOnly]
    rcases after_cases (books xs) x m with ⟨-, -, hs⟩ | ⟨r, -, hb, -, hs⟩
    · simpa only [settledStatements, hs] using ih
    · have hl : ∀ p ∈ statements (books xs).ledger m, p.1 ≤ x.instant := fun p hp => by
        obtain ⟨y, hy, he⟩ := statements_instant hp
        exact he ▸ hx y hy
      rw [settledStatements, hs, List.filter_append, latest_concat_of_le hl]
      cases hset : r.statement.result.settled with
      | true =>
        have hl' : ∀ p ∈ settledStatements (books xs).ledger m, p.1 ≤ x.instant := fun p hp =>
          hl p (List.mem_filter.1 hp).1
        rw [List.filter_cons_of_pos (by simpa using hset), List.filter_nil]
        rw [← settledStatements, latest_concat_of_le hl']
      | false =>
        rw [List.filter_cons_of_neg (by simp [hset]), List.filter_nil, List.append_nil]
        rw [← settledStatements, ← ih, ← priorBilled_eq]
        -- neither settled nor withheld, the statement adds nothing
        have hzero : r.statement.result.billableIncrement = 0 := by
          have hw := mt hb.withheld_iff.1 hnow
          simp only [BillableUpliftResult.withheld, BillableUpliftResult.settled, Bool.or_eq_false_iff,
            decide_eq_false_iff_not, not_lt] at hw hset
          exact le_antisymm (not_lt.1 fun hpos => hw ⟨hset.1, hpos⟩) hset.2
        have hinc := hb.increment
        rw [hzero, priorBilled_eq, statements_entries, ← priorBilled_eq] at hinc
        simp only [keptOf, Option.map_some, Option.getD_some, statementEntry_bound]
        linarith

/-- Which dollars the watermark counts.  In any ledger, it counts only dollars whose fee was
    computed exactly if the latest statement is such a one, or records the bound of the latest
    such one.  A run that is not billable consumes no dollars exactly if it does not withhold any,
    and in runs that never do the watermark counts only dollars whose fee was computed. -/
theorem withheld_counted (xs : List (Month K)) (x : Month K) (hxs : InOrder (xs ++ [x]))
    (r : BillingMerchantResult K) (hr : r ∈ (books xs).run x) :
    let m := r.merchantId
    let before := (books xs).ledger
    let after := (books (xs ++ [x])).ledger
    (∀ entries, priorBilledFromLedger entries m = priorBilledFromLedger (settledOnly entries) m ↔
      LatestSettled entries m) ∧
    ((r.statement.result.billable = false →
      priorBilledFromLedger after m ≤ priorBilledFromLedger before m) ↔
        ¬ Withholds m (books xs) x) ∧
    (EveryRun (fun b y => ¬ Withholds m b y) (xs ++ [x]) →
      priorBilledFromLedger after m = priorBilledFromLedger (settledOnly after) m) := by
  intro m before after
  refine ⟨fun entries => priorBilled_settledOnly entries m, ?_, priorBilled_unwithheld hxs⟩
  obtain ⟨hb, -, -⟩ := run_mem hr
  have hbefore : priorBilledFromLedger before m =
      priorBilledFromLedger ((books xs).entries x) m := by
    rw [priorBilled_eq, priorBilled_eq, statements_entries]
  simp only [after, m, priorBilled_after hxs hr]
  rw [hbefore, hb.lower, hb.billable, Withholds]
  simp only [not_and, not_lt]
  rfl

end

/-- The dollars of a billable statement are counted. -/
theorem withheld_counted_billable :
    let ledger := (books [Sample.january Sample.upliftConfig]).ledger
    ∃ r ∈ (books []).run (Sample.january Sample.upliftConfig),
      priorBilledFromLedger ledger r.merchantId =
        priorBilledFromLedger (settledOnly ledger) r.merchantId := by
  obtain ⟨r, hr, hm⟩ : ∃ r ∈ (books []).run (Sample.january Sample.upliftConfig),
      r.merchantId = "mrc_1" := by decide +kernel
  have hbill : (measureCohort (Sample.january Sample.upliftConfig).opts.ctx
      ((books []).entries (Sample.january Sample.upliftConfig)) "mrc_1"
      (Sample.january Sample.upliftConfig).period).billable = true := by decide +kernel
  refine ⟨r, hr, ?_⟩
  exact (withheld_counted [] (Sample.january Sample.upliftConfig) (List.pairwise_singleton _ _)
    r hr).2.2 (everyRun_singleton fun h => by simp [hm, hbill, Withholds] at h)

/-- A gate withholds the dollars of January: they are not billed, but counted, and a run that
    passes the gates does not bill them any more. -/
theorem withheld_counted_fails :
    let x := Sample.january { Sample.upliftConfig with minControlClusters := 300 }
    let ledger := (books [x]).ledger
    ((books []).run x).map (fun r => (r.statement.result.billable, r.statement.result.fee)) =
      [(false, 0)] ∧
    priorBilledFromLedger ledger "mrc_1" = 13255 ∧
    priorBilledFromLedger (settledOnly ledger) "mrc_1" = 0 ∧
    ((books [x]).run Sample.januaryAgain).map (fun r =>
      (r.statement.result.billable, r.statement.result.fee)) = [(true, 0)] := by
  decide +kernel

end AX10M
