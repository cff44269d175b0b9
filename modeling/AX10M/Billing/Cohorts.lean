/-
  The cohorts of the runs of consecutive months (`billing/observations.ts`).

  A run bills the invoices that were assigned in the month before its own; the month of an
  assignment is that of the event that opened the case, as its adapter read it.  An invoice is in
  exactly one of the cohorts of the runs to come if the times of its assignments name exactly one
  month that is still to be billed (`measured_once_iff`).
-/
import AX10M.Billing.Observations
import AX10M.Js.Calendar
import AX10M.Recovery.Joins

namespace AX10M

open Js

/-- The month before an instant lies between the starts of two months. -/
theorem monthBefore_bounds (now : ℤ) :
    (monthBefore now).startMs = Date.monthStart (Date.monthIndex now - 1) ∧
    (monthBefore now).endMs = Date.monthStart (Date.monthIndex now) := by
  have hstart : 12 * Date.year now + (Date.month now - 1) = Date.monthIndex now - 1 := by
    rw [Date.monthIndex]
    omega
  constructor
  · rw [monthBefore, Date.utc_eq_monthStart, hstart]
  · show Date.utc (Date.year now) (Date.month now) 1 = _
    rw [Date.utc_eq_monthStart, Date.monthIndex]

/-- The month of an entry's event, if its time can be read. -/
def eventMonth (e : LedgerEntry) : Option ℤ := (Date.parse e.occurredAt).map Date.monthIndex

/-- The entry assigns the invoice of the merchant to an arm. -/
structure Assigns (e : LedgerEntry) (m i : String) : Prop where
  type : e.type = .holdoutAssigned
  merchantId : e.merchantId = m
  invoiceId : str (e.field "invoiceId") = some i
  arm : (bucketOf e).isSome

theorem assignedIn_monthBefore {e : LedgerEntry} {m : String} {now : ℤ} :
    assignedIn e m (monthBefore now) ↔
      e.type = .holdoutAssigned ∧ e.merchantId = m ∧
        eventMonth e = some (Date.monthIndex now - 1) := by
  obtain ⟨hstart, hend⟩ := monthBefore_bounds now
  have hmonth : ∀ t, Date.monthIndex t = Date.monthIndex now - 1 ↔
      Date.monthStart (Date.monthIndex now - 1) ≤ t ∧ t < Date.monthStart (Date.monthIndex now) := by
    intro t
    rw [Date.monthIndex_eq_iff, Int.sub_add_cancel]
  rw [assignedIn, eventMonth, hstart, hend]
  cases ht : Date.parse e.occurredAt with
  | none => simp
  | some t => simp [hmonth, and_assoc]

/-- Monthly runs, the `k`-th one reading what was appended before it. -/
structure MonthlyRuns where
  /-- what is appended after the run before and before the `k`-th run -/
  appended : ℕ → List LedgerEntry
  now : ℕ → ℤ
  monthly : ∀ k, Date.monthIndex (now (k + 1)) = Date.monthIndex (now k) + 1

namespace MonthlyRuns

variable (x : MonthlyRuns)

/-- The ledger that the `k`-th run reads. -/
def entries (k : ℕ) : List LedgerEntry := (List.range (k + 1)).flatMap x.appended

/-- The invoice has an observation in the `k`-th run. -/
def Measures (k : ℕ) (m i : String) : Prop :=
  ∃ e ∈ x.entries k, assignedIn e m (monthBefore (x.now k)) ∧
    str (e.field "invoiceId") = some i ∧
    (observationOf (netByInvoice (x.entries k) m) e).isSome

/-- The `n`-th month is named by an assignment of the invoice, and no run has billed it when both
    that assignment and what is appended before the `j`-th run are there. -/
def Due (j : ℕ) (m i : String) (n : ℤ) : Prop :=
  ∃ a, ∃ e ∈ x.appended a, Assigns e m i ∧ eventMonth e = some n ∧
    Date.monthIndex (x.now (max a j)) ≤ n + 1

theorem monthIndex_now (k : ℕ) :
    Date.monthIndex (x.now k) = Date.monthIndex (x.now 0) + k := by
  induction k with
  | zero => simp
  | succ k ih =>
    rw [x.monthly, ih]
    push_cast
    omega

theorem mem_entries {k : ℕ} {e : LedgerEntry} :
    e ∈ x.entries k ↔ ∃ a, a ≤ k ∧ e ∈ x.appended a := by
  simp only [entries, List.mem_flatMap, List.mem_range, Nat.lt_succ_iff]

/-- An assignment to an arm has an observation. -/
theorem observationOf_isSome {net : Map String ℚ} {e : LedgerEntry} {i : String}
    (hi : str (e.field "invoiceId") = some i) :
    (observationOf net e).isSome ↔ (bucketOf e).isSome := by
  rw [observationOf, hi]
  cases bucketOf e with
  | none => rfl
  | some arm => rfl

variable {x}

theorem measures_iff {k : ℕ} {m i : String} :
    x.Measures k m i ↔ ∃ a, a ≤ k ∧ ∃ e ∈ x.appended a, Assigns e m i ∧
      eventMonth e = some (Date.monthIndex (x.now k) - 1) := by
  constructor
  · rintro ⟨e, he, hin, hi, hobs⟩
    obtain ⟨htype, hm, hmonth⟩ := assignedIn_monthBefore.1 hin
    obtain ⟨a, ha, hea⟩ := x.mem_entries.1 he
    exact ⟨a, ha, e, hea, ⟨htype, hm, hi, (observationOf_isSome hi).1 hobs⟩, hmonth⟩
  · rintro ⟨a, ha, e, hea, h, hmonth⟩
    exact ⟨e, x.mem_entries.2 ⟨a, ha, hea⟩,
      assignedIn_monthBefore.2 ⟨h.type, h.merchantId, hmonth⟩, h.invoiceId,
      (observationOf_isSome h.invoiceId).2 h.arm⟩

/-- A run to come has the invoice in its cohort if the month it bills is due. -/
theorem measures_iff_due {j k : ℕ} {m i : String} :
    (j ≤ k ∧ x.Measures k m i) ↔ x.Due j m i (Date.monthIndex (x.now k) - 1) := by
  have hle : ∀ a : ℕ, Date.monthIndex (x.now a) ≤ Date.monthIndex (x.now k) - 1 + 1 ↔ a ≤ k := by
    intro a
    rw [x.monthIndex_now a, x.monthIndex_now k]
    omega
  rw [measures_iff]
  constructor
  · rintro ⟨hj, a, ha, e, hea, h, hmonth⟩
    exact ⟨a, e, hea, h, hmonth, (hle _).2 (Nat.max_le.2 ⟨ha, hj⟩)⟩
  · rintro ⟨a, e, hea, h, hmonth, hdue⟩
    obtain ⟨ha, hj⟩ := Nat.max_le.1 ((hle _).1 hdue)
    exact ⟨hj, a, ha, e, hea, h, hmonth⟩

/-- A month that is due is billed by some run. -/
theorem exists_run_of_due {j : ℕ} {m i : String} {n : ℤ} (h : x.Due j m i n) :
    ∃ k, n = Date.monthIndex (x.now k) - 1 := by
  obtain ⟨a, e, -, -, -, hdue⟩ := h
  refine ⟨(n + 1 - Date.monthIndex (x.now 0)).toNat, ?_⟩
  rw [x.monthIndex_now] at hdue ⊢
  omega

end MonthlyRuns

/-- An invoice is in the cohort of exactly one of the runs that are made after something was
    appended, before the `j`-th run, if and only if the times of its assignments name exactly one
    month that is still to be billed. -/
theorem measured_once_iff (x : MonthlyRuns) (j : ℕ) (m i : String) :
    (∃! k, j ≤ k ∧ x.Measures k m i) ↔ ∃! n, x.Due j m i n := by
  constructor
  · rintro ⟨k, hk, hunique⟩
    refine ⟨_, MonthlyRuns.measures_iff_due.1 hk, ?_⟩
    intro n hn
    obtain ⟨k', rfl⟩ := MonthlyRuns.exists_run_of_due hn
    rw [hunique k' (MonthlyRuns.measures_iff_due.2 hn)]
  · rintro ⟨n, hn, hunique⟩
    obtain ⟨k, rfl⟩ := MonthlyRuns.exists_run_of_due hn
    refine ⟨k, MonthlyRuns.measures_iff_due.2 hn, ?_⟩
    intro k' hk'
    have hmonth := hunique _ (MonthlyRuns.measures_iff_due.1 hk')
    simp only [x.monthIndex_now k', x.monthIndex_now k] at hmonth
    omega

namespace Sample

/-- A failed payment as an XML notification, without a time. -/
def failedXml : RlBody := .xml
  ("<failed_payment_notification><account><account_code>acct1</account_code></account>" ++
    "<invoice><uuid>inv_1</uuid><total_in_cents>14900</total_in_cents></invoice>" ++
    "</failed_payment_notification>")

/-- A service that knows the hash of the payer of the notification. -/
def recurlyService : RecoveryCaseService where
  sha256 text := ([("ax10m-holdout-v1:mrc_1:ax10m_cus_acct1",
    "90e2da857ce65fc9a1b2d6cbc4d0eccd8e59d62bacd100cac12c7abc4ec39bdc")].lookup text).getD ""

/-- The ledger after the notification was ingested. -/
def notified : List LedgerEntry :=
  (ingest recurlyService env "recurly" world (recurly.ingestWebhook true failedXml)).ledger

/-- Runs on the first of every month from September 2026 on, six in the morning, with nothing
    appended after the first one. -/
def monthlyRuns (ledger : List LedgerEntry) : MonthlyRuns where
  appended k := if k = 0 then ledger else []
  now k := Date.monthStart (12 * 2026 + 8 + k) + 21600000
  monthly k := by
    rw [Date.monthIndex_monthStart_add (by decide) (by decide),
      Date.monthIndex_monthStart_add (by decide) (by decide)]
    push_cast
    omega

theorem mem_monthlyRuns {ledger : List LedgerEntry} {k : ℕ} {e : LedgerEntry} :
    e ∈ (monthlyRuns ledger).appended k ↔ k = 0 ∧ e ∈ ledger := by
  by_cases hk : k = 0
  · simp [monthlyRuns, hk]
  · simp [monthlyRuns, hk]

theorem monthlyRuns_month (ledger : List LedgerEntry) (k : ℕ) :
    Date.monthIndex ((monthlyRuns ledger).now k) = 12 * 2026 + 8 + k :=
  Date.monthIndex_monthStart_add (by decide) (by decide)

end Sample

/-- The assignment of an XML notification is of 1970: no run has the invoice in its cohort. -/
theorem measured_once_fails :
    let x := Sample.monthlyRuns Sample.notified
    (∃ e ∈ x.appended 0, Assigns e "mrc_1" "ax10m_inv_inv_1") ∧
      ¬ ∃! k, 0 ≤ k ∧ x.Measures k "mrc_1" "ax10m_inv_inv_1" := by
  intro x
  have hrun : (∃ e ∈ Sample.notified, e.type = .holdoutAssigned ∧ e.merchantId = "mrc_1" ∧
      str (e.field "invoiceId") = some "ax10m_inv_inv_1" ∧ (bucketOf e).isSome) ∧
      ∀ e ∈ Sample.notified, e.type = .holdoutAssigned → eventMonth e = some (12 * 1970) := by
    decide +kernel
  obtain ⟨⟨e, he, htype, hm, hi, harm⟩, hepoch⟩ := hrun
  refine ⟨⟨e, Sample.mem_monthlyRuns.2 ⟨rfl, he⟩, htype, hm, hi, harm⟩, ?_⟩
  rintro ⟨k, ⟨-, hk⟩, -⟩
  obtain ⟨a, -, e', he', h, hmonth⟩ := MonthlyRuns.measures_iff.1 hk
  rw [hepoch e' (Sample.mem_monthlyRuns.1 he').2 h.type, Sample.monthlyRuns_month] at hmonth
  have hn := Option.some.inj hmonth
  omega

end AX10M
