/-
  Statements over ledgers of several currencies (`billing/observations.ts`, `billing/billing.ts`).

  The profit and loss statement skips the amounts of other currencies than its own
  (`analytics/pnl.ts`); the observations do not look at the currency.  A statement is the one of
  the entries in its currency if and only if the cohort is of that currency, other currencies cancel
  in the nets of its invoices, and the watermark is of that currency (`single_currency_iff`).
-/
import AX10M.Billing.Observed

namespace AX10M

open Js Logs

/-- The entry is in a currency, as one that names none is. -/
def inCurrency (c : String) (e : LedgerEntry) : Bool := (str (e.field "currency")).getD c = c

/-- The entries in a currency. -/
def entriesIn (c : String) (entries : List LedgerEntry) : List LedgerEntry :=
  entries.filter (inCurrency c)

/-- What entries in other currencies add to the net of an invoice. -/
def foreignNet (c : String) (entries : List LedgerEntry) (m i : String) : ℚ :=
  ((entries.filter fun e => !inCurrency c e).filter fun e => e.merchantId = m ∧
    str (e.field "invoiceId") = some i).filterMap netChange |>.sum

variable (c : String) (entries : List LedgerEntry) (m : String)

/-- The net of an invoice is that in a currency, and what other currencies add. -/
theorem net_split (i : String) :
    ((netByInvoice entries m).get i).getD 0 =
      ((netByInvoice (entriesIn c entries) m).get i).getD 0 + foreignNet c entries m i := by
  have hparts := ((List.filter_append_perm (inCurrency c) entries).filter fun e =>
    e.merchantId = m ∧ str (e.field "invoiceId") = some i).filterMap netChange
  rw [List.filter_append, List.filterMap_append] at hparts
  rw [netByInvoice_get, netByInvoice_get, foreignNet, entriesIn, ← hparts.sum_eq, List.sum_append]

/-- An entry has an observation if it assigns an invoice, with the net of that invoice. -/
theorem observationOf_some {e : LedgerEntry} {i : String} (h : invoiceOf e = some i)
    (net net' : Map String ℚ) :
    ∃ o o', observationOf net e = some o ∧ observationOf net' e = some o' ∧
      (o = o' ↔ (net.get i).getD 0 = (net'.get i).getD 0) := by
  rw [invoiceOf] at h
  cases hi : str (e.field "invoiceId") with
  | none => simp [hi] at h
  | some j =>
    cases ha : bucketOf e with
    | none => simp [hi, ha] at h
    | some arm =>
      obtain rfl : j = i := by simpa [hi, ha] using h
      refine ⟨_, _, by rw [observationOf, hi, ha]; rfl, by rw [observationOf, hi, ha]; rfl, ?_⟩
      constructor
      · intro heq
        exact congrArg UpliftObservation.outcome heq
      · intro heq
        rw [heq]

theorem observationOf_none {e : LedgerEntry} (h : invoiceOf e = none) (net : Map String ℚ) :
    observationOf net e = none := by
  rw [← observedAs_snd, observedAs, h]
  rfl

/-- Some of the entries have as many observations, or fewer. -/
theorem observations_length_le (p : LedgerEntry → Bool) (net net' : Map String ℚ)
    (l : List LedgerEntry) :
    ((l.filter p).filterMap (observationOf net')).length ≤
      (l.filterMap (observationOf net)).length := by
  induction l with
  | nil => simp
  | cons e l ih =>
    cases hi : invoiceOf e with
    | none => cases hp : p e <;> simpa [hp, observationOf_none hi] using ih
    | some i =>
      obtain ⟨o, o', ho, ho', -⟩ := observationOf_some hi net net'
      cases hp : p e
      · simp only [List.filter_cons, hp, List.filterMap_cons, ho, Bool.false_eq_true, if_false,
          List.length_cons]
        omega
      · simpa [hp, ho, ho'] using ih

/-- Observations of some of the entries are those of all of them if none is left out and the nets
    of the invoices agree. -/
theorem observations_eq_iff (p : LedgerEntry → Bool) (net net' : Map String ℚ)
    (l : List LedgerEntry) :
    l.filterMap (observationOf net) = (l.filter p).filterMap (observationOf net') ↔
      ∀ e ∈ l, ∀ i, invoiceOf e = some i → p e ∧ (net.get i).getD 0 = (net'.get i).getD 0 := by
  induction l with
  | nil => simp
  | cons e l ih =>
    rw [List.forall_mem_cons]
    cases hi : invoiceOf e with
    | none =>
      have hskip : (l.filter p).filterMap (observationOf net') =
          ((e :: l).filter p).filterMap (observationOf net') := by
        cases hp : p e <;> simp [hp, observationOf_none hi]
      rw [List.filterMap_cons, observationOf_none hi, ← hskip]
      simpa using ih
    | some i =>
      obtain ⟨o, o', ho, ho', heq⟩ := observationOf_some hi net net'
      rw [List.filterMap_cons, ho]
      cases hp : p e
      · have hle := observations_length_le p net net' l
        constructor
        · intro h
          have hlength := congrArg List.length h
          simp only [List.filter_cons, hp, Bool.false_eq_true, if_false, List.length_cons]
            at hlength
          omega
        · intro h
          exact absurd (h.1 i rfl).1 (by simp)
      · rw [List.filter_cons, if_pos hp, List.filterMap_cons, ho']
        simp only [List.cons.injEq, heq, ih, Option.some.injEq, forall_eq', true_and]

/-- The cohort of a merchant and a period is that of the entries in a currency. -/
theorem reconstructObservations_entriesIn_iff (p : BillingPeriod) :
    reconstructObservations entries m p = reconstructObservations (entriesIn c entries) m p ↔
      ∀ e ∈ entries, assignedIn e m p → ∀ i, invoiceOf e = some i →
        inCurrency c e ∧ foreignNet c entries m i = 0 := by
  have hcomm : (entriesIn c entries).filter (fun e => assignedIn e m p) =
      (entries.filter fun e => assignedIn e m p).filter (inCurrency c) := by
    rw [entriesIn, List.filter_comm]
  have hnet : ∀ i, ((netByInvoice entries m).get i).getD 0 =
      ((netByInvoice (entriesIn c entries) m).get i).getD 0 ↔ foreignNet c entries m i = 0 := by
    intro i
    rw [net_split c entries m i]
    exact add_eq_left
  rw [reconstructObservations, reconstructObservations, hcomm, observations_eq_iff]
  simp only [List.mem_filter, and_imp, hnet]

section

variable {K : Type} [Field K] [LinearOrder K] [FloorRing K]

/-- A statement is that of the entries in its currency: the cohort, the watermark, and so the bound
    and the fee. -/
structure SingleCurrency (ctx : StatementContext K) (p : BillingPeriod) : Prop where
  observations : reconstructObservations entries m p =
    reconstructObservations (entriesIn ctx.config.currency entries) m p
  watermark : priorBilledFromLedger entries m =
    priorBilledFromLedger (entriesIn ctx.config.currency entries) m
  statement : computeMerchantStatement ctx entries m p =
    computeMerchantStatement ctx (entriesIn ctx.config.currency entries) m p

/-- The bound that the latest statement of a merchant recorded. -/
def latestBound : ℚ := (keptOf (latest (statements entries m))).2

/-- A statement is that of the entries in its currency if and only if every invoice of the cohort is
    assigned in that currency, what other currencies add to its net cancels, and the latest
    statement recorded the same bound as the latest one in that currency. -/
theorem single_currency_iff (ctx : StatementContext K) (p : BillingPeriod) :
    SingleCurrency entries m ctx p ↔
      (∀ e ∈ entries, assignedIn e m p → ∀ i, invoiceOf e = some i →
        inCurrency ctx.config.currency e ∧ foreignNet ctx.config.currency entries m i = 0) ∧
      latestBound entries m = latestBound (entriesIn ctx.config.currency entries) m := by
  rw [← reconstructObservations_entriesIn_iff, latestBound, latestBound, ← priorBilled_eq,
    ← priorBilled_eq]
  constructor
  · intro h
    exact ⟨h.observations, h.watermark⟩
  · rintro ⟨hobservations, hwatermark⟩
    refine ⟨hobservations, hwatermark, ?_⟩
    rw [computeMerchantStatement, computeMerchantStatement, hobservations, hwatermark]

end

namespace Sample

/-- The entries as amounts in euros. -/
def inEuros (entries : List LedgerEntry) : List LedgerEntry :=
  entries.map fun e => { e with detail := e.detail ++ [("currency", .str "EUR")] }

/-- What the statement of January is computed with, in dollars. -/
def januaryContext : StatementContext ℚ := (billing upliftConfig "2026-02-01T06:00:00.000Z").ctx

/-- The currency and the fee of a statement of January. -/
def januaryFee (entries : List LedgerEntry) : Option (String × ℤ) :=
  (computeMerchantStatement januaryContext entries "mrc_1" (monthBefore 1769925600000)).toOption.map
    fun s => (s.currency, s.result.fee)

end Sample

/-- Amounts in euros are billed in dollars: the statement of no dollars has no fee. -/
theorem single_currency_fails :
    let entries := Sample.inEuros (Sample.cohort "2026-01-15")
    Sample.januaryFee entries = some ("USD", 1591) ∧
      Sample.januaryFee (entriesIn "USD" entries) = some ("USD", 0) ∧
      ¬ SingleCurrency entries "mrc_1" Sample.januaryContext (monthBefore 1769925600000) := by
  intro entries
  have hfee : Sample.januaryFee entries = some ("USD", 1591) := by decide +kernel
  have hdollars : Sample.januaryFee (entriesIn "USD" entries) = some ("USD", 0) := by decide +kernel
  refine ⟨hfee, hdollars, ?_⟩
  intro h
  have hsame : Sample.januaryFee entries = Sample.januaryFee (entriesIn "USD" entries) :=
    congrArg (fun s => s.toOption.map fun s => (s.currency, s.result.fee)) h.statement
  rw [hfee, hdollars] at hsame
  cases hsame

end AX10M
