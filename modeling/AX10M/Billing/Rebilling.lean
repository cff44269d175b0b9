/-
  What is billed of the cohort of a month.

  The watermark is the lower bound of the last statement, whatever month it was of,
  while every run measures the cohort of one month.  So a run bills what was not billed
  of its cohort yet exactly if the last statement was of the same month and not
  withheld, or of another month whose bound happens to be what was billed of this one
  (`billed_once`).
-/
import AX10M.Billing.Books
import Mathlib.Tactic.Ring

namespace AX10M

open Js Logs

section

variable {K : Type}

namespace BillingBooks

/-- The dollars of the cohort of a month that were billed. -/
def billed (b : BillingBooks K) (m : String) (p : BillingPeriod) : ℚ :=
  (((b.of m).filter fun r => r.period = p ∧ r.statement.result.settled).map fun r =>
    r.statement.result.billableIncrement).sum

/-- The last statement is of the same month and not withheld, or of another month, and its bound
    is what was billed of this month's cohort (`0` for a new one). -/
def Fresh (m : String) (b : BillingBooks K) (x : Month K) : Prop :=
  ∀ r ∈ (b.of m).getLast?, r.period = x.period ∧ ¬ r.statement.result.withheld ∨
    r.period ≠ x.period ∧ r.statement.result.lowerDollarsCum = b.billed m x.period

/-- The cohort of the last statement is billed up to its bound, or less if it was withheld. -/
def Settled (m : String) (b : BillingBooks K) : Prop :=
  ∀ r ∈ (b.of m).getLast?,
    (¬ r.statement.result.withheld → b.billed m r.period = r.statement.result.lowerDollarsCum) ∧
    (r.statement.result.withheld → b.billed m r.period < r.statement.result.lowerDollarsCum)

/-- Then a run finds the watermark at what was billed of its cohort exactly if it is fresh. -/
theorem Settled.lastBound_eq_iff {b : BillingBooks K} {m : String} (h : b.Settled m) (x : Month K) :
    (b.lastBound m : ℚ) = b.billed m x.period ↔ b.Fresh m x := by
  rw [Fresh, lastBound]
  rcases hl : (b.of m).getLast? with _ | r
  · have hof : b.of m = [] := List.getLast?_eq_none_iff.1 hl
    simp [billed, hof]
  · obtain ⟨hs, hw⟩ := h r hl
    simp only [Option.map_some, Option.getD_some, Option.mem_some_iff, forall_eq']
    by_cases hp : r.period = x.period
    · simp only [hp, true_and, ne_eq, not_true_eq_false, false_and, or_false]
      rw [hp] at hs hw
      exact ⟨fun he hwith => absurd he (hw hwith).ne', fun hwith => (hs hwith).symm⟩
    · simp [hp]

end BillingBooks

variable [Field K] [LinearOrder K] [FloorRing K]

namespace BillingBooks

theorem billed_after {b : BillingBooks K} {x : Month K} {m : String} {r : BillingMerchantResult K}
    (h : (b.after x).of m = b.of m ++ [r]) (p : BillingPeriod) :
    (b.after x).billed m p = b.billed m p +
      if r.period = p ∧ r.statement.result.settled then r.statement.result.billableIncrement
      else 0 := by
  rw [billed, billed, h, List.filter_append, List.map_append, List.sum_append]
  congr 1
  split
  next hr => simp [hr]
  next hr => simp [hr]

/-- A fresh run settles its cohort. -/
theorem Settled.after {b : BillingBooks K} {m : String} {x : Month K} {r : BillingMerchantResult K}
    (hr : Bills x.opts (b.entries x) x.period m r) (hof : (b.after x).of m = b.of m ++ [r])
    (hw : priorBilledFromLedger (b.entries x) m = b.billed m x.period) : (b.after x).Settled m := by
  intro r' hr'
  obtain rfl : r = r' := by simpa [hof] using hr'
  have hinc := hr.increment
  rw [hw] at hinc
  rw [billed_after hof, hr.period]
  simp only [true_and, BillableUpliftResult.withheld, BillableUpliftResult.settled,
    Bool.or_eq_true, decide_eq_true_eq]
  cases r.statement.result.billable with
  | true => exact ⟨fun _ => by rw [if_pos (.inl rfl)]; linarith, fun h => absurd h.1 (by simp)⟩
  | false =>
    refine ⟨fun h => ?_, fun h => ?_⟩
    · rcases lt_or_eq_of_le (not_lt.1 fun hpos => h ⟨rfl, hpos⟩) with hneg | hzero
      · rw [if_pos (.inr hneg)]
        linarith
      · rw [if_neg (by simp [hzero])]
        linarith
    · rw [if_neg (by simp [h.2.le])]
      linarith [h.2]

/-- In runs that are all fresh, the cohort of the last statement is billed up to its bound. -/
theorem settled_books {xs : List (Month K)} (hxs : InOrder xs) {m : String}
    (h : EveryRun (Fresh m) xs) : (books xs).Settled m := by
  have empty : Settled m (⟨[], []⟩ : BillingBooks K) := by simp [Settled, of]
  refine books_inv empty (fun xs x hxs hx ih => ?_) hxs h
  rcases after_cases (books xs) x m with ⟨-, hof, -⟩ | ⟨r, -, hr, hof, -⟩
  · simpa only [Settled, billed, hof] using ih
  · have hw := (ih.lastBound_eq_iff x).2 hx
    exact Settled.after hr hof (by rw [priorBilled_entries hxs.init.1, hw])

end BillingBooks

/-- A run bills what is proven of its cohort and was not billed before.  Runs that are fresh
    do, and then all of it is billed; after such runs, a run is over the dollars billed of its
    cohort only if it is fresh as well. -/
theorem billed_once (xs : List (Month K)) (x : Month K) (hxs : InOrder (xs ++ [x]))
    (r : BillingMerchantResult K) (hr : r ∈ (books xs).run x)
    (h : EveryRun (BillingBooks.Fresh r.merchantId) xs) :
    let m := r.merchantId
    let proven := (measureCohort x.opts.ctx ((books xs).entries x) m x.period).lowerDollars
    let billed := (books xs).billed m x.period
    (r.statement.result.billableIncrement = proven - billed ↔ (books xs).Fresh m x) ∧
    ((books xs).Fresh m x → r.statement.result.billable →
      r.statement.result.fee = Js.round (x.opts.ctx.config.feeRate * ((proven - billed : ℚ) : K)) ∧
      (books (xs ++ [x])).billed m x.period = proven) := by
  intro m proven billed
  have hs := BillingBooks.settled_books hxs.init.1 h
  obtain ⟨hb, hof, -⟩ := run_mem hr
  have hinc := hb.increment
  rw [hb.lower, priorBilled_entries hxs.init.1] at hinc
  have hiff := hs.lastBound_eq_iff x
  refine ⟨?_, fun hfresh hbill => ?_⟩
  · rw [hinc, sub_right_inj, hiff]
  · have hw := hiff.2 hfresh
    have hset : r.statement.result.settled := by simp [BillableUpliftResult.settled, hbill]
    rw [hw] at hinc
    refine ⟨by rw [hb.fee, if_pos hset, hinc], ?_⟩
    rw [books_concat, BillingBooks.billed_after hof, if_pos ⟨hb.period, hset⟩, hinc]
    ring

end

/-- Billing a month twice bills it once. -/
theorem billed_once_again :
    ∃ r ∈ (books [Sample.january Sample.upliftConfig]).run Sample.januaryAgain,
      (books [Sample.january Sample.upliftConfig, Sample.januaryAgain]).billed r.merchantId
        Sample.januaryAgain.period = 13255 := by
  obtain ⟨r, hr, hm, hb⟩ : ∃ r ∈ (books [Sample.january Sample.upliftConfig]).run
      Sample.januaryAgain, r.merchantId = "mrc_1" ∧ r.statement.result.billable := by
    decide +kernel
  have hlast : ∀ r ∈ ((books [Sample.january Sample.upliftConfig]).of "mrc_1").getLast?,
      r.period = Sample.januaryAgain.period ∧ ¬ r.statement.result.withheld := by decide +kernel
  have hproven : (measureCohort Sample.januaryAgain.opts.ctx
      ((books [Sample.january Sample.upliftConfig]).entries Sample.januaryAgain) "mrc_1"
      Sample.januaryAgain.period).lowerDollars = 13255 := by decide +kernel
  have h := ((billed_once [Sample.january Sample.upliftConfig] Sample.januaryAgain
    (by simp [InOrder, Sample.january, Sample.januaryAgain]) r hr
    (everyRun_singleton (by simp [BillingBooks.Fresh, books, BillingBooks.of]))).2
    (fun r' hr' => .inl (hlast r' (by rwa [hm] at hr'))) hb).2
  refine ⟨r, hr, h.trans ?_⟩
  rw [hm, hproven]
  rfl

/-- A cohort that proves as much as the one before it is not billed at all. -/
theorem billed_once_fails :
    let b := books [Sample.january Sample.upliftConfig]
    let x := Sample.february (Sample.cohort "2026-02-15") (by decide)
    let proven := (measureCohort x.opts.ctx (b.entries x) "mrc_1" x.period).lowerDollars
    proven = 13255 ∧ b.billed "mrc_1" x.period = 0 ∧
    (b.run x).map (fun r => (r.statement.result.billable, r.statement.result.fee)) = [(true, 0)] ∧
    ¬ ∀ r ∈ b.run x, r.statement.result.billable → r.statement.result.fee =
      Js.round (x.opts.ctx.config.feeRate * (proven - b.billed r.merchantId x.period)) := by
  decide +kernel

end AX10M
