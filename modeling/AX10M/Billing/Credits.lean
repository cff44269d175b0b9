/-
  What a merchant is billed, and the proof that stands.

  A credit is settled as a negative fee, but what is billed is never negative, so a
  credit is lost while the watermark has moved.  As long as no run lowers the watermark,
  and the cohorts billed so far still prove what the last settled statement recorded
  whenever a run bills nothing, no more is billed than the fee of what they prove
  (`billed_within_proof`).
-/
import AX10M.Billing.Books
import Mathlib.Algebra.Order.BigOperators.Group.List
import Mathlib.Data.List.Dedup

namespace AX10M

open Js Logs

section

variable {K : Type}

namespace BillingBooks

/-- The net amounts billed so far; no credit is ever returned. -/
def netBilled (b : BillingBooks K) (m : String) : ℤ :=
  ((b.of m).map fun r => r.economics.netBilledMinor).sum

/-- The statements of a merchant whose fee was computed. -/
def settledOf (b : BillingBooks K) (m : String) : List (BillingMerchantResult K) :=
  (b.of m).filter fun r => r.statement.result.settled

/-- The cohorts billed so far. -/
def cohorts (b : BillingBooks K) (m : String) : List BillingPeriod :=
  ((b.settledOf m).map fun r => r.period).dedup

/-- The lower bound of the last statement whose fee was computed. -/
def settledBound (b : BillingBooks K) (m : String) : ℤ :=
  ((b.settledOf m).getLast?.map fun r => r.statement.result.lowerDollarsCum).getD 0

end BillingBooks

variable [Field K] [LinearOrder K] [FloorRing K]

/-- What a cohort proves as of a run. -/
def provenNow (x : Month K) (entries : List LedgerEntry) (m : String) (p : BillingPeriod) : ℤ :=
  (measureCohort x.opts.ctx entries m p).lowerDollars

/-- What some cohorts prove together as of a run. -/
def standing (x : Month K) (entries : List LedgerEntry) (m : String) (ps : List BillingPeriod) : ℤ :=
  (ps.map (provenNow x entries m)).sum

/-- The run does not lower the watermark, and if a gate withholds its statement, the cohorts billed
    so far still prove what the last settled statement recorded. -/
def Stands (m : String) (b : BillingBooks K) (x : Month K) : Prop :=
  let measured := measureCohort x.opts.ctx (b.entries x) m x.period
  priorBilledFromLedger (b.entries x) m ≤ measured.lowerDollars ∧
    (measured.billable = false → b.settledBound m ≤ standing x (b.entries x) m (b.cohorts m))

instance (m : String) (b : BillingBooks K) (x : Month K) : Decidable (Stands m b x) :=
  inferInstanceAs (Decidable (_ ∧ (_ → _)))

theorem settledOf_after {b : BillingBooks K} {x : Month K} {m : String} {r : BillingMerchantResult K}
    (h : (b.after x).of m = b.of m ++ [r]) :
    (b.after x).settledOf m =
      b.settledOf m ++ if r.statement.result.settled then [r] else [] := by
  rw [BillingBooks.settledOf, BillingBooks.settledOf, h, List.filter_append]
  congr 1
  cases hr : r.statement.result.settled <;> simp [hr]

theorem netBilled_after {b : BillingBooks K} {x : Month K} {m : String} {r : BillingMerchantResult K}
    (h : (b.after x).of m = b.of m ++ [r]) :
    (b.after x).netBilled m = b.netBilled m + r.economics.netBilledMinor := by
  simp [BillingBooks.netBilled, h]

/-- What is billed is covered by the last settled bound, which the last bound does not undercut. -/
structure Covered (feeRate : K) (m : String) (b : BillingBooks K) : Prop where
  billed : (b.netBilled m : K) ≤ feeRate * b.settledBound m + (b.of m).length
  bound : b.settledBound m ≤ b.lastBound m

variable [IsStrictOrderedRing K]

/-- What a run bills that does not lower the watermark is the fee of the increment at most. -/
theorem net_le {b : BillingBooks K} {m : String} {x : Month K} {r : BillingMerchantResult K}
    (hr : Bills x.opts (b.entries x) x.period m r)
    (hprior : priorBilledFromLedger (b.entries x) m = b.lastBound m)
    (hx : b.lastBound m ≤ r.statement.result.lowerDollarsCum) :
    (r.economics.netBilledMinor : K) ≤ if r.statement.result.settled then
      x.opts.ctx.config.feeRate * (r.statement.result.lowerDollarsCum - b.lastBound m) + 1 / 2
      else 0 := by
  have hnet := hr.net
  have hinc : (r.statement.result.billableIncrement : K) =
      r.statement.result.lowerDollarsCum - b.lastBound m := by
    rw [hr.increment, hprior]
    push_cast
    rfl
  rw [hr.fee, hinc] at hnet
  split at hnet
  next hset =>
    have hnonneg : 0 ≤ x.opts.ctx.config.feeRate *
        ((r.statement.result.lowerDollarsCum : K) - b.lastBound m) :=
      mul_nonneg hr.feeRate (sub_nonneg.2 (by exact_mod_cast hx))
    rw [max_eq_right (Js.round_nonneg hnonneg)] at hnet
    rw [if_pos hset]
    calc (r.economics.netBilledMinor : K)
        ≤ (Js.round (x.opts.ctx.config.feeRate *
            ((r.statement.result.lowerDollarsCum : K) - b.lastBound m)) : ℤ) := by
          exact_mod_cast hnet
      _ ≤ _ := Js.round_le _
  next hset =>
    rw [if_neg hset]
    exact_mod_cast hnet.trans (by simp)

theorem Covered.after {b : BillingBooks K} {m : String} {x : Month K} {r : BillingMerchantResult K}
    (h : Covered x.opts.ctx.config.feeRate m b)
    (hr : Bills x.opts (b.entries x) x.period m r) (hof : (b.after x).of m = b.of m ++ [r])
    (hprior : priorBilledFromLedger (b.entries x) m = b.lastBound m)
    (hx : b.lastBound m ≤ r.statement.result.lowerDollarsCum) :
    Covered x.opts.ctx.config.feeRate m (b.after x) := by
  have hlast : (b.after x).lastBound m = r.statement.result.lowerDollarsCum := by
    simp [BillingBooks.lastBound, hof]
  have hnet := net_le hr hprior hx
  have hbilled := h.billed
  have hlen : (((b.after x).of m).length : K) = (b.of m).length + 1 := by simp [hof]
  have hsum : ((b.after x).netBilled m : K) = b.netBilled m + r.economics.netBilledMinor := by
    rw [netBilled_after hof]
    push_cast
    rfl
  cases hset : r.statement.result.settled with
  | true =>
    have hbound : (b.after x).settledBound m = r.statement.result.lowerDollarsCum := by
      simp [BillingBooks.settledBound, settledOf_after hof, hset]
    refine ⟨?_, by rw [hbound, hlast]⟩
    have hle : x.opts.ctx.config.feeRate * (b.settledBound m : K) ≤
        x.opts.ctx.config.feeRate * b.lastBound m :=
      mul_le_mul_of_nonneg_left (by exact_mod_cast h.bound) hr.feeRate
    rw [if_pos hset, mul_sub] at hnet
    rw [hsum, hbound, hlen]
    linarith
  | false =>
    have hbound : (b.after x).settledBound m = b.settledBound m := by
      simp [BillingBooks.settledBound, settledOf_after hof, hset]
    refine ⟨?_, by rw [hbound, hlast]; exact h.bound.trans hx⟩
    rw [if_neg (by simp [hset])] at hnet
    rw [hsum, hbound, hlen]
    linarith

/-- In runs that stand, what is billed is covered. -/
theorem covered_books {xs : List (Month K)} (hxs : InOrder xs) {m : String} {feeRate : K}
    (hrate : ∀ x ∈ xs, x.opts.ctx.config.feeRate = feeRate)
    (h : EveryRun (Stands m) xs) : Covered feeRate m (books xs) := by
  induction xs using List.reverseRecOn with
  | nil => exact ⟨by simp [books, BillingBooks.netBilled, BillingBooks.settledBound, BillingBooks.settledOf, BillingBooks.of],
      by simp [books, BillingBooks.lastBound, BillingBooks.settledBound, BillingBooks.settledOf, BillingBooks.of]⟩
  | append_singleton xs x ih =>
    obtain ⟨hold, hx⟩ := everyRun_concat.1 h
    have ih := ih hxs.init.1 (fun y hy => hrate y (List.mem_append_left _ hy)) hold
    obtain rfl : x.opts.ctx.config.feeRate = feeRate := hrate x (by simp)
    rw [books_concat]
    rcases after_cases (books xs) x m with ⟨-, hof, -⟩ | ⟨r, -, hb, hof, -⟩
    · obtain ⟨hbilled, hbound⟩ := ih
      constructor
      · simpa only [BillingBooks.netBilled, BillingBooks.settledBound, BillingBooks.settledOf, hof] using hbilled
      · simpa only [BillingBooks.lastBound, BillingBooks.settledBound, BillingBooks.settledOf, hof] using hbound
    · have hprior := priorBilled_entries hxs.init.1 x m
      refine ih.after hb hof hprior ?_
      have := hx.1
      rw [hprior, ← hb.lower] at this
      exact_mod_cast this

/-- The cohorts billed so far prove the bound of the last settled statement. -/
theorem settledBound_le_standing {b : BillingBooks K} {x : Month K} {r : BillingMerchantResult K}
    (hr : r ∈ b.run x) (h : Stands r.merchantId b x) :
    (b.after x).settledBound r.merchantId ≤
      standing x (b.entries x) r.merchantId ((b.after x).cohorts r.merchantId) := by
  obtain ⟨hb, hof, -⟩ := run_mem hr
  have hnonneg : ∀ n ∈ ((b.after x).cohorts r.merchantId).map
      (provenNow x (b.entries x) r.merchantId), 0 ≤ n := by
    intro n hn
    obtain ⟨p, -, rfl⟩ := List.mem_map.1 hn
    exact lowerDollars_nonneg _ _ _
  cases hset : r.statement.result.settled with
  | true =>
    have hbound : (b.after x).settledBound r.merchantId =
        provenNow x (b.entries x) r.merchantId x.period := by
      rw [provenNow, ← hb.lower]
      simp [BillingBooks.settledBound, settledOf_after hof, hset]
    have hmem : x.period ∈ (b.after x).cohorts r.merchantId := by
      rw [BillingBooks.cohorts, List.mem_dedup, settledOf_after hof, hset]
      exact List.mem_map.2 ⟨r, by simp, hb.period⟩
    rw [hbound]
    exact List.single_le_sum hnonneg _ (List.mem_map.2 ⟨x.period, hmem, rfl⟩)
  | false =>
    have hold : (b.after x).settledOf r.merchantId = b.settledOf r.merchantId := by
      simp [settledOf_after hof, hset]
    have hbill : (measureCohort x.opts.ctx (b.entries x) r.merchantId x.period).billable =
        false := by
      rw [← hb.billable]
      exact (Bool.or_eq_false_iff.1 hset).1
    rw [BillingBooks.settledBound, BillingBooks.cohorts, hold]
    exact h.2 hbill

/-- What a merchant was billed is at most the fee of what the cohorts billed so far prove as of
    the last run, and a minor unit for each run; and no run lowers the watermark.  This holds in
    runs that stand. -/
theorem billed_within_proof (xs : List (Month K)) (x : Month K) (hxs : InOrder (xs ++ [x]))
    (feeRate : K) (hrate : ∀ y ∈ xs ++ [x], y.opts.ctx.config.feeRate = feeRate)
    (r : BillingMerchantResult K) (hr : r ∈ (books xs).run x)
    (h : EveryRun (Stands r.merchantId) (xs ++ [x])) :
    let m := r.merchantId
    let b := books (xs ++ [x])
    (b.netBilled m : K) ≤
      feeRate * standing x ((books xs).entries x) m (b.cohorts m) + (b.of m).length ∧
    priorBilledFromLedger (books xs).ledger m ≤ priorBilledFromLedger b.ledger m := by
  intro m b
  obtain ⟨hb, -, -⟩ := run_mem hr
  have hx : Stands m (books xs) x := (everyRun_concat.1 h).2
  have hcovered : Covered feeRate m b := covered_books hxs hrate h
  have hstanding := settledBound_le_standing hr hx
  rw [← books_concat] at hstanding
  have hfee : 0 ≤ feeRate := hrate x (by simp) ▸ hb.feeRate
  constructor
  · calc (b.netBilled m : K) ≤ feeRate * b.settledBound m + (b.of m).length := hcovered.billed
      _ ≤ _ := by
        have : (b.settledBound m : K) ≤ standing x ((books xs).entries x) m (b.cohorts m) := by
          exact_mod_cast hstanding
        linarith [mul_le_mul_of_nonneg_left this hfee]
  · have hold : priorBilledFromLedger (books xs).ledger m =
        priorBilledFromLedger ((books xs).entries x) m := by
      rw [priorBilled_eq, priorBilled_eq, statements_entries]
    rw [priorBilled_after hxs hr, hold, hb.lower]
    exact hx.1

end

/-- January billed twice is billed within its proof. -/
theorem billed_within_proof_again :
    let b := books [Sample.january Sample.upliftConfig]
    let b' := books [Sample.january Sample.upliftConfig, Sample.januaryAgain]
    (b'.netBilled "mrc_1" : ℚ) ≤ 12 / 100 * standing Sample.januaryAgain
      (b.entries Sample.januaryAgain) "mrc_1" (b'.cohorts "mrc_1") + (b'.of "mrc_1").length := by
  obtain ⟨r, hr, hm⟩ : ∃ r ∈ (books [Sample.january Sample.upliftConfig]).run
      Sample.januaryAgain, r.merchantId = "mrc_1" := by decide +kernel
  have hfirst : Stands "mrc_1" (books []) (Sample.january Sample.upliftConfig) := by
    decide +kernel
  have hsecond : Stands "mrc_1" (books [Sample.january Sample.upliftConfig])
      Sample.januaryAgain := by decide +kernel
  have hrate : ∀ y ∈ [Sample.january Sample.upliftConfig, Sample.januaryAgain],
      y.opts.ctx.config.feeRate = 12 / 100 := by
    simp [Sample.january, Sample.januaryAgain, Sample.billing, Sample.upliftConfig,
      defaultSequentialConfig]
  have h := (billed_within_proof [Sample.january Sample.upliftConfig] Sample.januaryAgain
    (by simp [InOrder, Sample.january, Sample.januaryAgain]) (12 / 100) hrate r hr
    (hm ▸ everyRun_concat.2 ⟨everyRun_singleton hfirst, hsecond⟩)).1
  rw [hm] at h
  exact h

/-- The recoveries of January are reversed after they were billed: the credit is lost. -/
theorem billed_within_proof_fails :
    let x := Sample.february [Sample.moved .caseReversed "2026-01-15a" 9000 "2026-02-10",
      Sample.moved .caseReversed "2026-01-15b" 11000 "2026-02-10"] (by decide)
    let b := books [Sample.january Sample.upliftConfig]
    let b' := books [Sample.january Sample.upliftConfig, x]
    (b.netBilled "mrc_1" = 1183 ∧ b'.netBilled "mrc_1" = 1183) ∧
    standing x (b.entries x) "mrc_1" (b'.cohorts "mrc_1") = 0 ∧
    (b.run x).map (fun r => (r.statement.result.fee, r.economics.netBilledMinor)) =
      [(-1591, 0)] ∧
    priorBilledFromLedger b.ledger "mrc_1" = 13255 ∧
    priorBilledFromLedger b'.ledger "mrc_1" = 0 ∧
    ¬ (b'.netBilled "mrc_1" : ℚ) ≤ 12 / 100 * standing x (b.entries x) "mrc_1"
      (b'.cohorts "mrc_1") + (b'.of "mrc_1").length := by
  decide +kernel

end AX10M
