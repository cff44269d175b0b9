/-
  What profit and loss decomposes into (`apps/api`, `analytics/pnl.ts`).

  The figures of totals are sums over entries (`figures_totalsOf`), so the processors add up to the
  ledger and the windows to the time they span.  The series adds up to its days exactly when all of
  them are dates and what days of long years take from other days of their month cancels
  (`computePnl_iff`).
-/
import AX10M.Analytics.Pnl
import Mathlib.Algebra.BigOperators.Group.List.Basic
import Mathlib.Algebra.Group.Prod
import Mathlib.Logic.Basic
import Mathlib.Tactic.Linarith

namespace AX10M

open Js Js.Date

/-! ## Figures -/

/-- The figures of totals that are sums: gross, reversed, reinstated and net, and the counts. -/
def PnlTotals.figures (t : PnlTotals) : ℚ × ℚ × ℚ × ℚ × ℕ × ℕ × ℕ × ℕ × ℕ :=
  (t.grossRecoveredMinor, t.reversedMinor, t.reinstatedMinor, t.recoveredMinor, t.recoveries,
    t.reversals, t.reinstatements, t.attempts, t.comms)

/-- The figures of an entry. -/
def entryFigures (c : String) (e : LedgerEntry) : ℚ × ℚ × ℚ × ℚ × ℕ × ℕ × ℕ × ℕ × ℕ :=
  (withFee (accumulate emptyTotals e c) 0).figures

variable {parse : String → Option ℤ} {feeRate : ℚ} {c : String} {entries : List LedgerEntry}

theorem figures_accumulate (t : PnlTotals) (e : LedgerEntry) :
    (withFee (accumulate t e c) feeRate).figures =
      (withFee t feeRate).figures + entryFigures c e := by
  unfold entryFigures accumulate
  cases e.type with
  | caseRecovered =>
    dsimp only
    split_ifs
    · simp [PnlTotals.figures, withFee, emptyTotals]
      ring
    · simp [PnlTotals.figures, withFee, emptyTotals]
  | caseReversed =>
    dsimp only
    split_ifs
    · simp [PnlTotals.figures, withFee, emptyTotals]
      ring
    · simp [PnlTotals.figures, withFee, emptyTotals]
  | caseReversalReverted =>
    dsimp only
    split_ifs
    · simp [PnlTotals.figures, withFee, emptyTotals]
      ring
    · simp [PnlTotals.figures, withFee, emptyTotals]
  | _ => simp [PnlTotals.figures, withFee, emptyTotals]

/-- The figures of totals are sums over the entries. -/
theorem figures_totalsOf :
    (totalsOf feeRate c entries).figures = (entries.map (entryFigures c)).sum := by
  have hfold (t : PnlTotals) : (withFee (entries.foldl (fun t e => accumulate t e c) t)
      feeRate).figures = (withFee t feeRate).figures + (entries.map (entryFigures c)).sum := by
    induction entries generalizing t with
    | nil => simp
    | cons e entries ih =>
      rw [List.foldl_cons, ih, figures_accumulate, List.map_cons, List.sum_cons, add_assoc]
  rw [totalsOf, hfold]
  simp [PnlTotals.figures, withFee, emptyTotals]

theorem figures_append (entries' : List LedgerEntry) :
    (totalsOf feeRate c (entries ++ entries')).figures =
      (totalsOf feeRate c entries).figures + (totalsOf feeRate c entries').figures := by
  rw [figures_totalsOf, figures_totalsOf, figures_totalsOf, List.map_append, List.sum_append]

/-! ## Windows -/

/-- The windows of a row. -/
inductive PnlPeriod where
  | day | week | month | year

/-- The length of a window. -/
def PnlPeriod.span : PnlPeriod → ℤ
  | day => 1 * msPerDay
  | week => 7 * msPerDay
  | month => 30 * msPerDay
  | year => 365 * msPerDay

def ProcessorPnl.period (row : ProcessorPnl) : PnlPeriod → PeriodDelta
  | .day => row.day
  | .week => row.week
  | .month => row.month
  | .year => row.year

/-- The time is in the window that ends now. -/
def InCurrent (now span t : ℤ) : Prop := now - span ≤ t ∧ t ≤ now

/-- The time is in the window before it. -/
def InPrevious (now span t : ℤ) : Prop := now - 2 * span ≤ t ∧ t < now - span

instance (now span t : ℤ) : Decidable (InCurrent now span t) := inferInstanceAs (Decidable (_ ∧ _))

instance (now span t : ℤ) : Decidable (InPrevious now span t) := inferInstanceAs (Decidable (_ ∧ _))

/-- The entries whose times are some. -/
def entriesTimed (parse : String → Option ℤ) (p : ℤ → Prop) [DecidablePred p]
    (entries : List LedgerEntry) : List LedgerEntry :=
  entries.filter fun e => (parse e.occurredAt).any fun t => p t

theorem entriesTimed_cons (p : ℤ → Prop) [DecidablePred p] (e : LedgerEntry) :
    entriesTimed parse p (e :: entries) = if (parse e.occurredAt).any fun t => p t then
      e :: entriesTimed parse p entries else entriesTimed parse p entries :=
  List.filter_cons

theorem entriesTimed_congr {p q : ℤ → Prop} [DecidablePred p] [DecidablePred q]
    (h : ∀ e ∈ entries, ∀ t, parse e.occurredAt = some t → (p t ↔ q t)) :
    entriesTimed parse p entries = entriesTimed parse q entries := by
  refine List.filter_congr fun e he => ?_
  cases ht : parse e.occurredAt with
  | none => rfl
  | some t => exact decide_eq_decide.2 (h e he t ht)

/-- The windows of a row count its entries: each time of two spans is of one window, and the windows
    are the totals of the entries at their times. -/
structure Windowed (parse : String → Option ℤ) (feeRate : ℚ) (c : String) (now : ℤ)
    (entries : List LedgerEntry) (row : ProcessorPnl) (p : PnlPeriod) : Prop where
  once : ∀ t, (now - 2 * p.span ≤ t ∧ t ≤ now ↔
    InCurrent now p.span t ∨ InPrevious now p.span t) ∧
    ¬ (InCurrent now p.span t ∧ InPrevious now p.span t)
  current : (row.period p).current =
    totalsOf feeRate c (entriesTimed parse (InCurrent now p.span) entries)
  previous : (row.period p).previous =
    totalsOf feeRate c (entriesTimed parse (InPrevious now p.span) entries)

/-- An entry is counted in the window its time is in. -/
theorem countWindow_eq (now span : ℤ) (totals : PnlTotals × PnlTotals) (e : LedgerEntry) :
    countWindow parse c (some now) span totals e =
      if (parse e.occurredAt).any fun t => InCurrent now span t then
        (accumulate totals.1 e c, totals.2)
      else if (parse e.occurredAt).any fun t => InPrevious now span t then
        (totals.1, accumulate totals.2 e c)
      else totals := by
  unfold countWindow
  cases parse e.occurredAt with
  | none => rfl
  | some t =>
    simp only [Option.any_some, decide_eq_true_eq]
    rfl

/-- No time is in both windows. -/
theorem not_inPrevious {now span t : ℤ} (h : InCurrent now span t) : ¬ InPrevious now span t := by
  unfold InCurrent InPrevious at *
  omega

theorem foldl_countWindow (now span : ℤ) (totals : PnlTotals × PnlTotals) :
    entries.foldl (countWindow parse c (some now) span) totals =
      ((entriesTimed parse (InCurrent now span) entries).foldl (fun t e => accumulate t e c)
          totals.1,
        (entriesTimed parse (InPrevious now span) entries).foldl (fun t e => accumulate t e c)
          totals.2) := by
  induction entries generalizing totals with
  | nil => rfl
  | cons e entries ih =>
    have hone : (parse e.occurredAt).any (fun t => InCurrent now span t) = true →
        ¬ (parse e.occurredAt).any (fun t => InPrevious now span t) = true := by
      cases parse e.occurredAt with
      | none => simp
      | some t => simpa using not_inPrevious
    rw [List.foldl_cons, ih, entriesTimed_cons, entriesTimed_cons, countWindow_eq]
    by_cases hcurrent : (parse e.occurredAt).any (fun t => InCurrent now span t) = true
    · rw [if_pos hcurrent, if_pos hcurrent, if_neg (hone hcurrent)]
      rfl
    · rw [if_neg hcurrent, if_neg hcurrent]
      split_ifs
      · rfl
      · rfl

theorem PnlPeriod.span_pos (p : PnlPeriod) : 0 < p.span := by
  cases p <;> decide

theorem windowed_processorPnl (processor : String) (now : ℤ) (p : PnlPeriod) :
    Windowed parse feeRate c now entries
      (processorPnl parse feeRate c processor entries (some now)) p := by
  have hspan := p.span_pos
  have hfold : entries.foldl (countWindow parse c (some now) p.span) (emptyTotals, emptyTotals) =
      _ := foldl_countWindow now p.span (emptyTotals, emptyTotals)
  obtain ⟨hcurrent, hprevious⟩ := Prod.ext_iff.1 hfold
  dsimp only at hcurrent hprevious
  refine ⟨fun t => ?_, ?_, ?_⟩
  · unfold InCurrent InPrevious
    omega
  · rw [totalsOf, ← hcurrent]
    cases p <;> rfl
  · rw [totalsOf, ← hprevious]
    cases p <;> rfl

/-! ## Fees -/

/-- The fee of totals is that on the gross, less the clawback, up to a minor unit. -/
def FeeAccrued (feeRate : ℚ) (t : PnlTotals) : Prop :=
  |t.feeMinor - (Js.round (t.grossRecoveredMinor * feeRate) - t.clawbackMinor)| ≤ 1

theorem abs_round_sub_sub_le (x y : ℚ) :
    |Js.round (x - y) - (Js.round x - Js.round y)| ≤ 1 := by
  have h := Js.lt_round (x - y)
  have h' := Js.round_le (x - y)
  have hx := Js.lt_round x
  have hx' := Js.round_le x
  have hy := Js.lt_round y
  have hy' := Js.round_le y
  have hlow : ((Js.round x - Js.round y : ℤ) : ℚ) - 2 < Js.round (x - y) := by
    push_cast
    linarith
  have hhigh : (Js.round (x - y) : ℚ) < ((Js.round x - Js.round y : ℤ) : ℚ) + 2 := by
    push_cast
    linarith
  have hlow' : Js.round x - Js.round y - 2 < Js.round (x - y) := by exact_mod_cast hlow
  have hhigh' : Js.round (x - y) < Js.round x - Js.round y + 2 := by exact_mod_cast hhigh
  rw [abs_le]
  omega

theorem feeAccrued_totalsOf : FeeAccrued feeRate (totalsOf feeRate c entries) := by
  rw [totalsOf]
  generalize entries.foldl (fun t e => accumulate t e c) emptyTotals = t
  have h := abs_round_sub_sub_le (t.grossRecoveredMinor * feeRate)
    ((t.reversedMinor - t.reinstatedMinor) * feeRate)
  have hnet : t.grossRecoveredMinor * feeRate - (t.reversedMinor - t.reinstatedMinor) * feeRate =
      (t.grossRecoveredMinor - t.reversedMinor + t.reinstatedMinor) * feeRate := by
    ring
  rwa [hnet] at h

/-! ## Processors -/

/-- The entries of a processor. -/
def entriesOf (processor : String) (entries : List LedgerEntry) : List LedgerEntry :=
  itemsOf processorOf processor entries

/-- The processors of a ledger. -/
def processorsOf (entries : List LedgerEntry) : List String :=
  (groupBy processorOf (fun es e => es ++ [e]) [] entries).keys

theorem foldl_push (es es' : List LedgerEntry) :
    es'.foldl (fun es e => es ++ [e]) es = es ++ es' := by
  induction es' generalizing es with
  | nil => simp
  | cons e es' ih => rw [List.foldl_cons, ih, List.append_assoc, List.singleton_append]

/-- The rows of the processors, up to their order. -/
theorem rows_perm (nowMs : Option ℤ) :
    (((groupBy processorOf (fun es e => es ++ [e]) [] entries).entries.map fun p =>
      processorPnl parse feeRate c p.1 p.2 nowMs).mergeSort
        fun a b => b.totals.feeMinor ≤ a.totals.feeMinor).Perm
      ((processorsOf entries).map fun p =>
        processorPnl parse feeRate c p (entriesOf p entries) nowMs) := by
  have hrows : (groupBy processorOf (fun es e => es ++ [e]) [] entries).entries.map (fun p =>
      processorPnl parse feeRate c p.1 p.2 nowMs) = (processorsOf entries).map fun p =>
        processorPnl parse feeRate c p (entriesOf p entries) nowMs := by
    rw [entries_groupBy, List.map_map]
    refine List.map_congr_left fun p _ => ?_
    rw [Function.comp_apply, foldl_push]
    rfl
  rw [← hrows]
  exact List.mergeSort_perm _ _

/-- The figures of the processors add up. -/
theorem sum_figures : ((processorsOf entries).map fun p =>
    (totalsOf feeRate c (entriesOf p entries)).figures).sum =
      (totalsOf feeRate c entries).figures := by
  simp only [figures_totalsOf]
  exact sum_itemsOf (entryFigures c) (Map.keys_nodup _) fun e he =>
    mem_keys_groupBy.2 ⟨e, he, rfl⟩

theorem sum_figures_at (p : ℤ → Prop) [DecidablePred p] : ((processorsOf entries).map fun q =>
    (totalsOf feeRate c (entriesTimed parse p (entriesOf q entries))).figures).sum =
      (totalsOf feeRate c (entriesTimed parse p entries)).figures := by
  have hcomm (q : String) : entriesTimed parse p (entriesOf q entries) =
      itemsOf processorOf q (entriesTimed parse p entries) := by
    rw [entriesTimed, entriesOf, itemsOf, List.filter_comm]
    rfl
  simp only [figures_totalsOf, hcomm]
  exact sum_itemsOf (entryFigures c) (Map.keys_nodup _) fun e he =>
    mem_keys_groupBy.2 ⟨e, (List.mem_filter.1 he).1, rfl⟩

/-! ## Nets -/

/-- What an entry adds to the net. -/
def entryNet (c : String) (e : LedgerEntry) : ℚ := (entryFigures c e).2.2.2.1

/-- The net of entries is a sum over them. -/
theorem net_totalsOf :
    (totalsOf feeRate c entries).recoveredMinor = (entries.map (entryNet c)).sum := by
  have hproj : ∀ l : List LedgerEntry, (l.map (entryFigures c)).sum.2.2.2.1 =
      (l.map (entryNet c)).sum := by
    intro l
    induction l with
    | nil => rfl
    | cons e l ih =>
      rw [List.map_cons, List.map_cons, List.sum_cons, List.sum_cons, ← ih]
      rfl
  have hfigures : (totalsOf feeRate c entries).figures = _ := figures_totalsOf
  rw [← hproj, ← hfigures]
  rfl

/-- The entries of money. -/
def IsMoney (e : LedgerEntry) : Prop :=
  e.type = .caseRecovered ∨ e.type = .caseReversed ∨ e.type = .caseReversalReverted

instance (e : LedgerEntry) : Decidable (IsMoney e) := inferInstanceAs (Decidable (_ ∨ _))

/-- The others do not change the net. -/
theorem entryNet_eq_zero {e : LedgerEntry} (h : ¬ IsMoney e) : entryNet c e = 0 := by
  unfold IsMoney at h
  unfold entryNet entryFigures accumulate
  cases htype : e.type with
  | caseRecovered => simp [htype] at h
  | caseReversed => simp [htype] at h
  | caseReversalReverted => simp [htype] at h
  | _ => simp [PnlTotals.figures, withFee, emptyTotals]

theorem sum_money (p : LedgerEntry → Bool) :
    (((entries.filter fun e => IsMoney e).filter p).map (entryNet c)).sum =
      ((entries.filter p).map (entryNet c)).sum := by
  induction entries with
  | nil => rfl
  | cons e entries ih =>
    by_cases hmoney : IsMoney e
    · rw [List.filter_cons_of_pos (by simpa using hmoney), List.filter_cons, List.filter_cons]
      split_ifs
      · rw [List.map_cons, List.map_cons, List.sum_cons, List.sum_cons, ih]
      · exact ih
    · rw [List.filter_cons_of_neg (by simpa using hmoney), List.filter_cons, ih]
      split_ifs
      · rw [List.map_cons, List.sum_cons, entryNet_eq_zero hmoney, zero_add]
      · rfl

/-! ## The days of the series -/

/-- The entries of a key, of those that have a time. -/
theorem map_snd_datedEntries (q : ℤ → Bool) :
    ((datedEntries parse entries).filter fun p => q p.1).map Prod.snd =
      (entries.filter fun e => IsMoney e).filter fun e => (parse e.occurredAt).any q := by
  have hdated : datedEntries parse entries = (entries.filter fun e => IsMoney e).filterMap
      fun e => (parse e.occurredAt).map fun t => (t, e) := rfl
  rw [hdated]
  generalize (entries.filter fun e => IsMoney e) = money
  induction money with
  | nil => rfl
  | cons e money ih =>
    cases ht : parse e.occurredAt with
    | none =>
      rw [List.filterMap_cons_none (by rw [ht, Option.map_none]), ih,
        List.filter_cons_of_neg (by simp [ht])]
    | some t =>
      rw [List.filterMap_cons_some (by rw [ht, Option.map_some]), List.filter_cons,
        List.filter_cons, ht, Option.any_some]
      split_ifs
      · rw [List.map_cons, ih]
      · exact ih

theorem mapM_eq_some {α β : Type} {f : α → Option β} {g : α → β} {l : List α}
    (h : ∀ x ∈ l, f x = some (g x)) : l.mapM f = some (l.map g) := by
  induction l with
  | nil => rfl
  | cons x l ih =>
    rw [List.mapM_cons, h x List.mem_cons_self, ih fun y hy => h y (List.mem_cons_of_mem x hy)]
    rfl

theorem eq_some_of_mapM {α β : Type} {f : α → Option β} {l : List α} {ys : List β}
    (h : l.mapM f = some ys) : ∀ x ∈ l, ∃ y, f x = some y := by
  induction l generalizing ys with
  | nil => simp
  | cons x l ih =>
    rw [List.mapM_cons] at h
    obtain ⟨y, hy, h⟩ := Option.bind_eq_some_iff.1 h
    obtain ⟨ys', hys, -⟩ := Option.bind_eq_some_iff.1 h
    exact List.forall_mem_cons.2 ⟨⟨y, hy⟩, ih hys⟩

/-- The totals of the days, under their texts. -/
def perDayOf (parse : String → Option ℤ) (c : String) (entries : List LedgerEntry) :
    Map String PnlTotals :=
  groupBy Prod.fst (fun bucket p => accumulate bucket p.2 c) emptyTotals
    ((datedEntries parse entries).map fun p => (dayText p.1, p.2))

theorem totalsPerDay_eq (hparse : ∀ s t, parse s = some t → IsDate t) :
    totalsPerDay parse c entries = some (perDayOf parse c entries) := by
  have hkeys : (datedEntries parse entries).mapM (fun p => (dayKey p.1).map fun key => (key, p.2)) =
      some ((datedEntries parse entries).map fun p => (dayText p.1, p.2)) := by
    refine mapM_eq_some fun p hp => ?_
    obtain ⟨e, -, he⟩ := List.mem_filterMap.1 hp
    obtain ⟨t, ht, rfl⟩ := Option.map_eq_some_iff.1 he
    rw [dayKey, if_pos (hparse _ _ ht)]
    rfl
  rw [totalsPerDay, hkeys]
  rfl

/-- The net of the key of a day: of the entries whose days have its text. -/
theorem net_perDayOf (text : String) :
    (withFee (((perDayOf parse c entries).get text).getD emptyTotals) feeRate).recoveredMinor =
      ((entriesTimed parse (fun t => dayText t = text) entries).map (entryNet c)).sum := by
  have hbucket : withFee (((perDayOf parse c entries).get text).getD emptyTotals) feeRate =
      totalsOf feeRate c ((itemsOf (fun p : ℤ × LedgerEntry => dayText p.1) text
        (datedEntries parse entries)).map Prod.snd) := by
    rw [perDayOf, getD_groupBy, itemsOf_map, List.foldl_map, totalsOf, List.foldl_map]
  rw [hbucket, net_totalsOf, itemsOf,
    map_snd_datedEntries fun t => dayText t = text]
  exact sum_money _

/-- The last days, counted from 1970. -/
def lastDays (now : ℤ) (n : ℕ) : List ℤ :=
  (List.range n).reverse.map fun i : ℕ => now / msPerDay - (i : ℤ)

/-- What the key of a day takes from other days: in a long year, the net of those of its month. -/
def netOfOtherDays (parse : String → Option ℤ) (c : String) (entries : List LedgerEntry) (d : ℤ) :
    ℚ :=
  if LongYear (d * msPerDay) then
    ((entriesTimed parse (fun t => monthIndex t = monthIndex (d * msPerDay) ∧ t / msPerDay ≠ d)
      entries).map (entryNet c)).sum
  else 0

/-- A sum over entries of one of two kinds. -/
theorem sum_entriesTimed_or {p q r : ℤ → Prop} [DecidablePred p] [DecidablePred q] [DecidablePred r]
    (h : ∀ e ∈ entries, ∀ t, parse e.occurredAt = some t → (p t ↔ q t ∨ r t) ∧ ¬ (q t ∧ r t)) :
    ((entriesTimed parse p entries).map (entryNet c)).sum =
      ((entriesTimed parse q entries).map (entryNet c)).sum +
        ((entriesTimed parse r entries).map (entryNet c)).sum := by
  induction entries with
  | nil => simp [entriesTimed]
  | cons e entries ih =>
    have hrest := ih fun e' he' => h e' (List.mem_cons_of_mem e he')
    rw [entriesTimed_cons, entriesTimed_cons, entriesTimed_cons]
    cases ht : parse e.occurredAt with
    | none => simpa using hrest
    | some t =>
      obtain ⟨hor, hand⟩ := h e List.mem_cons_self t ht
      simp only [Option.any_some, decide_eq_true_eq]
      by_cases hq : q t
      · have hr : ¬ r t := fun hr => hand ⟨hq, hr⟩
        rw [if_pos (hor.2 (Or.inl hq)), if_pos hq, if_neg hr, List.map_cons, List.map_cons,
          List.sum_cons, List.sum_cons, hrest, add_assoc]
      · by_cases hr : r t
        · rw [if_pos (hor.2 (Or.inr hr)), if_neg hq, if_pos hr, List.map_cons, List.map_cons,
            List.sum_cons, List.sum_cons, hrest, add_left_comm]
        · have hp : ¬ p t := fun hp => (hor.1 hp).elim hq hr
          rw [if_neg hp, if_neg hq, if_neg hr, hrest]

/-- The net of the key of a day: that of the day, and what it takes from other days. -/
theorem net_dayText (hparse : ∀ s t, parse s = some t → IsDate t) {d : ℤ}
    (hd : IsDate (d * msPerDay)) :
    ((entriesTimed parse (fun t => dayText t = dayText (d * msPerDay)) entries).map
        (entryNet c)).sum =
      ((entriesTimed parse (fun t => t / msPerDay = d) entries).map (entryNet c)).sum +
        netOfOtherDays parse c entries d := by
  unfold netOfOtherDays
  split_ifs with hlong
  · refine sum_entriesTimed_or fun e _ t ht => ?_
    have hiff := dayText_eq_day_iff (hparse _ _ ht) hd
    constructor
    · rw [hiff]
      constructor
      · rintro (hday | ⟨-, hmonth⟩)
        · exact Or.inl hday
        · by_cases hday : t / msPerDay = d
          · exact Or.inl hday
          · exact Or.inr ⟨hmonth, hday⟩
      · rintro (hday | ⟨hmonth, -⟩)
        · exact Or.inl hday
        · exact Or.inr ⟨hlong, hmonth⟩
    · rintro ⟨hday, -, hne⟩
      exact hne hday
  · have hsame : entriesTimed parse (fun t => dayText t = dayText (d * msPerDay)) entries =
        entriesTimed parse (fun t => t / msPerDay = d) entries := by
      refine entriesTimed_congr fun e _ t ht => ?_
      rw [dayText_eq_day_iff (hparse _ _ ht) hd]
      exact or_iff_left fun h => hlong h.1
    rw [hsame, add_zero]

theorem nodup_lastDays (now : ℤ) (n : ℕ) : (lastDays now n).Nodup := by
  refine List.Nodup.map ?_ (List.nodup_reverse.2 List.nodup_range)
  intro i j hij
  dsimp only at hij
  omega

/-- The nets of the days add up to that of their entries. -/
theorem sum_days {days : List ℤ} (h : days.Nodup) : (days.map fun d =>
    ((entriesTimed parse (fun t => t / msPerDay = d) entries).map (entryNet c)).sum).sum =
      ((entriesTimed parse (fun t => t / msPerDay ∈ days) entries).map (entryNet c)).sum := by
  have hmem : ∀ e ∈ entries, ((parse e.occurredAt).any fun t => t / msPerDay ∈ days) ↔
      ((parse e.occurredAt).map fun t => t / msPerDay) ∈ days.map some := by
    intro e _
    rw [Option.any_eq_true, List.mem_map]
    simp only [decide_eq_true_iff]
    constructor
    · rintro ⟨t, ht, hd⟩
      exact ⟨t / msPerDay, hd, by rw [ht, Option.map_some]⟩
    · rintro ⟨d, hd, hsome⟩
      obtain ⟨t, ht, rfl⟩ := Option.map_eq_some_iff.1 hsome.symm
      exact ⟨t, ht, hd⟩
  have hsum := sum_itemsOf_mem (entryNet c) (h.map (Option.some_injective ℤ)) hmem
  rw [List.map_map] at hsum
  refine Eq.trans (congrArg List.sum (List.map_congr_left fun d _ => ?_)) hsum
  refine congrArg (fun l : List LedgerEntry => (l.map (entryNet c)).sum) ?_
  refine List.filter_congr fun e _ => ?_
  rw [Bool.eq_iff_iff, Option.any_eq_true, decide_eq_true_iff, Option.map_eq_some_iff]
  simp only [decide_eq_true_iff]

/-! ## The report -/

/-- The report decomposes: the processors add up to all of the ledger, over all time and in the
    windows, which count what their times say; the series adds up to its days, and the fees to those
    on the gross less the clawbacks. -/
structure Decomposes (parse : String → Option ℤ) (entries : List LedgerEntry) (opts : PnlOptions)
    (now : ℤ) (report : PnlReport) : Prop where
  processors : (report.processors.map fun row => row.totals.figures).sum =
    report.cumulative.totals.figures
  periods : ∀ p, (report.processors.map fun row => (row.period p).current.figures).sum =
      (report.cumulative.period p).current.figures ∧
    (report.processors.map fun row => (row.period p).previous.figures).sum =
      (report.cumulative.period p).previous.figures
  windows : ∀ p, Windowed parse opts.rate report.currency now entries report.cumulative p ∧
    ∀ row ∈ report.processors,
      Windowed parse opts.rate report.currency now (entriesOf row.processor entries) row p
  series : (report.dailySeries.map PnlSeriesPoint.recoveredMinor).sum =
    (totalsOf opts.rate report.currency
      (entriesTimed parse (fun t => t / msPerDay ∈ lastDays now opts.days) entries)).recoveredMinor
  fees : ∀ row ∈ report.cumulative :: report.processors, FeeAccrued opts.rate row.totals ∧
    ∀ p, FeeAccrued opts.rate (row.period p).current ∧
      FeeAccrued opts.rate (row.period p).previous

/-- The days of the series are dates, and what their keys take from other days cancels. -/
structure SeriesExact (parse : String → Option ℤ) (entries : List LedgerEntry) (opts : PnlOptions)
    (now : ℤ) : Prop where
  dates : ∀ d ∈ lastDays now opts.days, IsDate (d * msPerDay)
  cancels : ((lastDays now opts.days).map
    (netOfOtherDays parse (opts.reportCurrency entries) entries)).sum = 0

theorem SeriesExact.of_shortYears {opts : PnlOptions} {now : ℤ}
    (h : ∀ d ∈ lastDays now opts.days, IsDate (d * msPerDay) ∧ ¬ LongYear (d * msPerDay)) :
    SeriesExact parse entries opts now := by
  refine ⟨fun d hd => (h d hd).1, List.sum_eq_zero fun x hx => ?_⟩
  obtain ⟨d, hd, rfl⟩ := List.mem_map.1 hx
  exact if_neg (h d hd).2

/-- The point of a day. -/
def pointOf (feeRate : ℚ) (perDay : Map String PnlTotals) (d : ℤ) : PnlSeriesPoint :=
  let t := withFee ((perDay.get (dayText (d * msPerDay))).getD emptyTotals) feeRate
  ⟨dayText (d * msPerDay), t.recoveredMinor, t.feeMinor⟩

theorem seriesPoint_eq (perDay : Map String PnlTotals) (now : ℤ) (i : ℕ) :
    seriesPoint feeRate perDay (some now) i =
      if IsDate ((now / msPerDay - i) * msPerDay) then
        some (pointOf feeRate perDay (now / msPerDay - i)) else none := by
  have hday : now / msPerDay * msPerDay - i * msPerDay = (now / msPerDay - i) * msPerDay := by
    ring
  have hpoint : seriesPoint feeRate perDay (some now) i =
      (dayKey (now / msPerDay * msPerDay - i * msPerDay)).bind fun key =>
        some (⟨key, (withFee ((perDay.get key).getD emptyTotals) feeRate).recoveredMinor,
          (withFee ((perDay.get key).getD emptyTotals) feeRate).feeMinor⟩ : PnlSeriesPoint) := rfl
  rw [hpoint, hday, dayKey]
  split_ifs
  · rfl
  · rfl

/-- The series, if its days are dates. -/
theorem series_eq {perDay : Map String PnlTotals} {now : ℤ} {n : ℕ}
    (h : ∀ d ∈ lastDays now n, IsDate (d * msPerDay)) :
    (List.range n).reverse.mapM (seriesPoint feeRate perDay (some now)) =
      some ((lastDays now n).map (pointOf feeRate perDay)) := by
  rw [lastDays, List.map_map]
  refine mapM_eq_some fun i hi => ?_
  rw [seriesPoint_eq, if_pos (h _ (List.mem_map.2 ⟨i, hi, rfl⟩))]
  rfl

theorem dates_of_series {perDay : Map String PnlTotals} {now : ℤ} {n : ℕ}
    {series : List PnlSeriesPoint}
    (h : (List.range n).reverse.mapM (seriesPoint feeRate perDay (some now)) = some series) :
    ∀ d ∈ lastDays now n, IsDate (d * msPerDay) := by
  intro d hd
  obtain ⟨i, hi, rfl⟩ := List.mem_map.1 hd
  obtain ⟨p, hp⟩ := eq_some_of_mapM h i hi
  rw [seriesPoint_eq] at hp
  by_contra hdate
  rw [if_neg hdate] at hp
  cases hp

/-- The net of the series: that of its days, and what their keys take from other days. -/
theorem net_series (hparse : ∀ s t, parse s = some t → IsDate t) {now : ℤ} {n : ℕ}
    (h : ∀ d ∈ lastDays now n, IsDate (d * msPerDay)) :
    (((lastDays now n).map (pointOf feeRate (perDayOf parse c entries))).map
        PnlSeriesPoint.recoveredMinor).sum =
      (totalsOf feeRate c (entriesTimed parse (fun t => t / msPerDay ∈ lastDays now n)
        entries)).recoveredMinor +
        ((lastDays now n).map (netOfOtherDays parse c entries)).sum := by
  rw [net_totalsOf, ← sum_days (nodup_lastDays now n), ← List.sum_map_add, List.map_map]
  refine congrArg List.sum (List.map_congr_left fun d hd => ?_)
  have hkey : (withFee (((perDayOf parse c entries).get (dayText (d * msPerDay))).getD emptyTotals)
      feeRate).recoveredMinor = _ := net_perDayOf _
  rw [← net_dayText hparse (h d hd), ← hkey]
  rfl

/-- The report with a series. -/
def reportOf (parse : String → Option ℤ) (entries : List LedgerEntry) (opts : PnlOptions)
    (now : ℤ) (series : List PnlSeriesPoint) : PnlReport :=
  { generatedAt := opts.nowIso
    currency := opts.reportCurrency entries
    feeRatePct := Js.round (opts.rate * 100)
    cumulative := processorPnl parse opts.rate (opts.reportCurrency entries) "all" entries
      (some now)
    processors := ((groupBy processorOf (fun es e => es ++ [e]) [] entries).entries.map fun p =>
      processorPnl parse opts.rate (opts.reportCurrency entries) p.1 p.2 (some now)).mergeSort
        fun a b => b.totals.feeMinor ≤ a.totals.feeMinor
    dailySeries := series }

variable {opts : PnlOptions} {now : ℤ}

theorem computePnl_eq (hparse : ∀ s t, parse s = some t → IsDate t)
    (hnow : parse opts.nowIso = some now) : computePnl parse entries opts =
      ((List.range opts.days).reverse.mapM (seriesPoint opts.rate
        (perDayOf parse (opts.reportCurrency entries) entries) (some now))).bind fun series =>
          some (reportOf parse entries opts now series) := by
  rw [computePnl, totalsPerDay_eq hparse, hnow]
  rfl

theorem processors_perm {series : List PnlSeriesPoint} :
    (reportOf parse entries opts now series).processors.Perm
      ((processorsOf entries).map fun q => processorPnl parse opts.rate
        (opts.reportCurrency entries) q (entriesOf q entries) (some now)) :=
  rows_perm (some now)

/-- What is counted in a window of each processor adds up. -/
theorem sum_rows {series : List PnlSeriesPoint} (read : ProcessorPnl → PnlTotals)
    (t : ℤ → Prop) [DecidablePred t] (h : ∀ q es, read (processorPnl parse opts.rate
      (opts.reportCurrency entries) q es (some now)) =
        totalsOf opts.rate (opts.reportCurrency entries) (entriesTimed parse t es)) :
    ((reportOf parse entries opts now series).processors.map fun row =>
        (read row).figures).sum =
      (read (reportOf parse entries opts now series).cumulative).figures := by
  have hcumulative : read (reportOf parse entries opts now series).cumulative = _ := h _ entries
  rw [(processors_perm.map _).sum_eq, List.map_map, hcumulative, ← sum_figures_at t]
  refine congrArg List.sum (List.map_congr_left fun q _ => ?_)
  rw [Function.comp_apply, h]

theorem feeAccrued_row (processor : String) (es : List LedgerEntry) (p : PnlPeriod) :
    FeeAccrued feeRate ((processorPnl parse feeRate c processor es (some now)).period p).current ∧
      FeeAccrued feeRate
        ((processorPnl parse feeRate c processor es (some now)).period p).previous := by
  obtain ⟨-, hcurrent, hprevious⟩ : Windowed parse feeRate c now es _ p :=
    windowed_processorPnl processor now p
  rw [hcurrent, hprevious]
  exact ⟨feeAccrued_totalsOf, feeAccrued_totalsOf⟩

/-- All but the series decomposes. -/
theorem decomposes_iff {series : List PnlSeriesPoint} :
    Decomposes parse entries opts now (reportOf parse entries opts now series) ↔
      (series.map PnlSeriesPoint.recoveredMinor).sum =
        (totalsOf opts.rate (opts.reportCurrency entries) (entriesTimed parse (fun t =>
          t / msPerDay ∈ lastDays now opts.days) entries)).recoveredMinor := by
  constructor
  · intro h
    exact h.series
  · intro hseries
    refine ⟨?_, fun p => ⟨?_, ?_⟩, fun p => ⟨?_, ?_⟩, hseries, ?_⟩
    · rw [(processors_perm.map _).sum_eq, List.map_map]
      exact sum_figures
    · exact sum_rows (fun row => (row.period p).current) (InCurrent now p.span) fun q es =>
        (windowed_processorPnl q now p).current
    · exact sum_rows (fun row => (row.period p).previous) (InPrevious now p.span) fun q es =>
        (windowed_processorPnl q now p).previous
    · exact windowed_processorPnl "all" now p
    · intro row hrow
      obtain ⟨q, -, rfl⟩ := List.mem_map.1 (processors_perm.mem_iff.1 hrow)
      exact windowed_processorPnl q now p
    · rw [List.forall_mem_cons]
      constructor
      · exact ⟨feeAccrued_totalsOf, feeAccrued_row "all" entries⟩
      · intro row hrow
        obtain ⟨q, -, rfl⟩ := List.mem_map.1 (processors_perm.mem_iff.1 hrow)
        exact ⟨feeAccrued_totalsOf, feeAccrued_row q (entriesOf q entries)⟩

/-- **Profit and loss decomposes** exactly when the days of the series are dates and what their keys
    take from other days cancels, as where all of them are in years of four digits. -/
theorem computePnl_iff (hparse : ∀ s t, parse s = some t → IsDate t)
    (hnow : parse opts.nowIso = some now) :
    (∃ report, computePnl parse entries opts = some report ∧
      Decomposes parse entries opts now report) ↔ SeriesExact parse entries opts now := by
  rw [computePnl_eq hparse hnow]
  constructor
  · rintro ⟨report, hreport, hdec⟩
    obtain ⟨series, hseries, hsome⟩ := Option.bind_eq_some_iff.1 hreport
    obtain rfl := Option.some.inj hsome
    have hdates := dates_of_series hseries
    rw [series_eq hdates] at hseries
    obtain rfl := Option.some.inj hseries
    have hsum := decomposes_iff.1 hdec
    rw [net_series hparse hdates] at hsum
    exact ⟨hdates, add_eq_left.1 hsum⟩
  · rintro ⟨hdates, hcancels⟩
    rw [series_eq hdates]
    refine ⟨_, rfl, decomposes_iff.2 ?_⟩
    rw [net_series hparse hdates, hcancels, add_zero]

/-- An entry of money. -/
def moneyEntry (type : LedgerEventType) (occurredAt : String) (amount : ℚ) (processor : Record) :
    LedgerEntry :=
  ⟨"mrc_1", type, occurredAt, ("amount", .num amount) :: processor⟩

/-- Two recoveries, one of which was reversed, in August 2026. -/
theorem computePnl_august :
    ∃ report, computePnl Date.parse
        [moneyEntry .caseRecovered "2026-08-10T12:00:00.000Z" 10000 [("processor", .str "stripe")],
          moneyEntry .caseRecovered "2026-08-16T09:00:00.000Z" 4000 [],
          moneyEntry .caseReversed "2026-08-16T10:00:00.000Z" 4000 []]
        { nowIso := "2026-08-16T12:00:00.000Z" } = some report ∧
      Decomposes Date.parse
        [moneyEntry .caseRecovered "2026-08-10T12:00:00.000Z" 10000 [("processor", .str "stripe")],
          moneyEntry .caseRecovered "2026-08-16T09:00:00.000Z" 4000 [],
          moneyEntry .caseReversed "2026-08-16T10:00:00.000Z" 4000 []]
        { nowIso := "2026-08-16T12:00:00.000Z" } 1786881600000 report :=
  (computePnl_iff (fun _ _ h => parse_isDate h) (by decide +kernel)).2
    (SeriesExact.of_shortYears (by decide +kernel))

/-- A recovery in January of the year 10000. -/
def lateLedger : List LedgerEntry :=
  [moneyEntry .caseRecovered "+010000-01-15T12:00:00.000Z" 100 []]

/-- Two days, up to the day after it. -/
def lateOptions : PnlOptions :=
  { nowIso := "+010000-01-16T12:00:00.000Z", seriesDays := some 2 }

/-- In January of the year 10000, a recovery is counted on the day of it and on the next. -/
theorem computePnl_longYear :
    parseExpanded lateOptions.nowIso = some 253403640000000 ∧
      ¬ ∃ report, computePnl parseExpanded lateLedger lateOptions = some report ∧
        Decomposes parseExpanded lateLedger lateOptions 253403640000000 report := by
  refine ⟨by decide +kernel, ?_⟩
  rintro ⟨report, hreport, hdec⟩
  have hread : (computePnl parseExpanded lateLedger lateOptions).map (fun r =>
      ((r.dailySeries.map PnlSeriesPoint.recoveredMinor).sum, r.currency)) = some (200, "USD") := by
    decide +kernel
  obtain ⟨report', hreport', hvalues⟩ := Option.map_eq_some_iff.1 hread
  obtain rfl := Option.some.inj (hreport'.symm.trans hreport)
  obtain ⟨hsum, hcurrency⟩ := Prod.mk.inj hvalues
  have hseries := hdec.series
  rw [hsum, hcurrency] at hseries
  exact absurd hseries (by decide +kernel)

end AX10M
