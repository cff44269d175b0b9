/-
  Profit and loss over the ledger (`apps/api`, `analytics/pnl.ts`).

  `computePnl` adds the entries of a ledger up over all time, over windows before an instant and
  over days, for each processor and for all of them.  Amounts are exact rationals; `parse` is
  `Date.parse`, `none` where it is `NaN`, and the report is `none` where a day that is not a date
  throws.
-/
import AX10M.Attribution.Ledger
import AX10M.Js.DayKeys
import AX10M.Js.Groups
import AX10M.Js.Number
import Mathlib.Data.Rat.Floor

namespace AX10M

open Js Js.Date

/-! ## Totals -/

/-- What entries add up to. -/
structure PnlTotals where
  recoveredMinor : ℚ := 0
  grossRecoveredMinor : ℚ := 0
  reversedMinor : ℚ := 0
  reinstatedMinor : ℚ := 0
  feeMinor : ℤ := 0
  clawbackMinor : ℤ := 0
  recoveries : ℕ := 0
  reversals : ℕ := 0
  reinstatements : ℕ := 0
  attempts : ℕ := 0
  comms : ℕ := 0

def emptyTotals : PnlTotals := {}

/-- The net of totals, and the fee on it. -/
def withFee (t : PnlTotals) (feeRate : ℚ) : PnlTotals :=
  let recoveredMinor := t.grossRecoveredMinor - t.reversedMinor + t.reinstatedMinor
  { t with
    recoveredMinor
    feeMinor := Js.round (recoveredMinor * feeRate)
    clawbackMinor := Js.round ((t.reversedMinor - t.reinstatedMinor) * feeRate) }

def pctChange (current previous : ℚ) : Option ℚ :=
  if previous = 0 then none else some ((current - previous) / previous * 100)

/-- Add an entry to totals. -/
def accumulate (target : PnlTotals) (e : LedgerEntry) (reportCurrency : String) : PnlTotals :=
  let reported := (str (e.field "currency")).getD reportCurrency = reportCurrency
  match e.type with
  | .caseRecovered =>
    if reported then
      { target with
        grossRecoveredMinor := target.grossRecoveredMinor + e.amount
        recoveries := target.recoveries + 1 }
    else target
  | .caseReversed =>
    if reported then
      { target with
        reversedMinor := target.reversedMinor + e.amount
        reversals := target.reversals + 1 }
    else target
  | .caseReversalReverted =>
    if reported then
      { target with
        reinstatedMinor := target.reinstatedMinor + e.amount
        reinstatements := target.reinstatements + 1 }
    else target
  | .chargeSucceeded | .chargeFailed => { target with attempts := target.attempts + 1 }
  | .commsSent => { target with comms := target.comms + 1 }
  | _ => target

section

variable (parse : String → Option ℤ) (feeRate : ℚ) (reportCurrency : String)

/-- The totals of entries. -/
def totalsOf (entries : List LedgerEntry) : PnlTotals :=
  withFee (entries.foldl (fun t e => accumulate t e reportCurrency) emptyTotals) feeRate

/-! ## Windows -/

/-- The totals of a window, and of the one before it. -/
structure PeriodDelta where
  current : PnlTotals
  previous : PnlTotals
  feeDeltaPct : Option ℚ
  recoveredDeltaPct : Option ℚ

/-- Count an entry in the window it is in. -/
def countWindow (nowMs : Option ℤ) (span : ℤ) (totals : PnlTotals × PnlTotals) (e : LedgerEntry) :
    PnlTotals × PnlTotals :=
  match parse e.occurredAt, nowMs with
  | some t, some now =>
    if now - span ≤ t ∧ t ≤ now then (accumulate totals.1 e reportCurrency, totals.2)
    else if now - 2 * span ≤ t ∧ t < now - span then
      (totals.1, accumulate totals.2 e reportCurrency)
    else totals
  | _, _ => totals

/-- The windows of a number of days. -/
def periodDelta (entries : List LedgerEntry) (nowMs : Option ℤ) (days : ℤ) : PeriodDelta :=
  let totals := entries.foldl (countWindow parse reportCurrency nowMs (days * msPerDay))
    (emptyTotals, emptyTotals)
  let cur := withFee totals.1 feeRate
  let prev := withFee totals.2 feeRate
  { current := cur
    previous := prev
    feeDeltaPct := pctChange cur.feeMinor prev.feeMinor
    recoveredDeltaPct := pctChange cur.recoveredMinor prev.recoveredMinor }

/-- The row of a processor, or of all of them. -/
structure ProcessorPnl where
  processor : String
  totals : PnlTotals
  day : PeriodDelta
  week : PeriodDelta
  month : PeriodDelta
  year : PeriodDelta

def processorPnl (processor : String) (entries : List LedgerEntry) (nowMs : Option ℤ) :
    ProcessorPnl :=
  { processor
    totals := totalsOf feeRate reportCurrency entries
    day := periodDelta parse feeRate reportCurrency entries nowMs 1
    week := periodDelta parse feeRate reportCurrency entries nowMs 7
    month := periodDelta parse feeRate reportCurrency entries nowMs 30
    year := periodDelta parse feeRate reportCurrency entries nowMs 365 }

/-! ## Days -/

/-- The key of the day of an instant; what is not a date throws. -/
def dayKey (ms : ℤ) : Option String := if IsDate ms then some (dayText ms) else none

/-- The entries of money that have a time, with it. -/
def datedEntries (entries : List LedgerEntry) : List (ℤ × LedgerEntry) :=
  (entries.filter fun e => e.type = .caseRecovered ∨ e.type = .caseReversed ∨
    e.type = .caseReversalReverted).filterMap fun e => (parse e.occurredAt).map fun t => (t, e)

/-- The totals of each day. -/
def totalsPerDay (entries : List LedgerEntry) : Option (Map String PnlTotals) := do
  let keyed ← (datedEntries parse entries).mapM fun p => (dayKey p.1).map fun key => (key, p.2)
  pure (groupBy Prod.fst (fun bucket p => accumulate bucket p.2 reportCurrency) emptyTotals keyed)

structure PnlSeriesPoint where
  date : String
  recoveredMinor : ℚ
  feeMinor : ℤ

/-- The point of the day that is a number of days ago. -/
def seriesPoint (perDay : Map String PnlTotals) (nowMs : Option ℤ) (i : ℕ) :
    Option PnlSeriesPoint := do
  let todayStart := (← nowMs) / msPerDay * msPerDay
  let key ← dayKey (todayStart - i * msPerDay)
  let t := withFee ((perDay.get key).getD emptyTotals) feeRate
  pure ⟨key, t.recoveredMinor, t.feeMinor⟩

end

/-! ## The report -/

structure PnlReport where
  generatedAt : String
  currency : String
  feeRatePct : ℤ
  feeBasis : String := "accrual-on-recovered"
  cumulative : ProcessorPnl
  processors : List ProcessorPnl
  dailySeries : List PnlSeriesPoint

structure PnlOptions where
  nowIso : String
  feeRate : Option ℚ := none
  currency : Option String := none
  seriesDays : Option ℕ := none

/-- The currency of most recoveries. -/
def dominantCurrency (entries : List LedgerEntry) : Option String :=
  let currencyCounts := groupBy (fun e : LedgerEntry => (str (e.field "currency")).getD "USD")
    (fun n _ => n + 1) 0 (entries.filter fun e => e.type = .caseRecovered)
  (currencyCounts.entries.mergeSort fun a b => b.2 ≤ a.2).head?.map Prod.fst

def PnlOptions.rate (opts : PnlOptions) : ℚ := opts.feeRate.getD (12 / 100)

def PnlOptions.reportCurrency (opts : PnlOptions) (entries : List LedgerEntry) : String :=
  (opts.currency.or (dominantCurrency entries)).getD "USD"

def PnlOptions.days (opts : PnlOptions) : ℕ := opts.seriesDays.getD 30

def processorOf (e : LedgerEntry) : String := (str (e.field "processor")).getD "unknown"

/-- The report over a ledger. -/
def computePnl (parse : String → Option ℤ) (entries : List LedgerEntry) (opts : PnlOptions) :
    Option PnlReport := do
  let feeRate := opts.rate
  let nowMs := parse opts.nowIso
  let reportCurrency := opts.reportCurrency entries
  let byProcessor := groupBy processorOf (fun es e => es ++ [e]) [] entries
  let processors := (byProcessor.entries.map fun p =>
    processorPnl parse feeRate reportCurrency p.1 p.2 nowMs).mergeSort
      fun a b => b.totals.feeMinor ≤ a.totals.feeMinor
  let perDay ← totalsPerDay parse reportCurrency entries
  let dailySeries ← (List.range opts.days).reverse.mapM (seriesPoint feeRate perDay nowMs)
  pure
    { generatedAt := opts.nowIso
      currency := reportCurrency
      feeRatePct := Js.round (feeRate * 100)
      cumulative := processorPnl parse feeRate reportCurrency "all" entries nowMs
      processors
      dailySeries }

end AX10M
