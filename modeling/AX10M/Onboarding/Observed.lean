/-
  What a shadow window makes of the reports about a merchant's invoices.

  A failure enters its invoice as not recovered, over all that was known of it; a payment marks it
  as recovered, if it was entered before.

  `counted_iff`: the projection counts an invoice as recovered by the baseline, and projects nothing
  of it, if and only if a failure of it was reported before a payment that no failure follows
  (`FailedThenPaid`).
-/
import AX10M.Onboarding
import Mathlib.Algebra.BigOperators.Group.List.Basic
import Mathlib.Data.List.Induction

namespace AX10M

open Js

/-- A report about an invoice. -/
inductive ShadowReport where
  | failed (invoiceId : String) (declineCode : DeclineCode) (amount : MinorUnits)
  | paid (invoiceId : String)
  deriving DecidableEq

namespace ShadowReport

/-- Enter a report. -/
def enter (obs : Map String ShadowObservation) : ShadowReport → Map String ShadowObservation
  | failed i code amount => obs.set i ⟨code, amount, false⟩
  | paid i =>
    match obs.get i with
    | some o => obs.set i { o with baselineRecovered := true }
    | none => obs

/-- The report is of a failure of the invoice. -/
def FailedFor (i : String) : ShadowReport → Prop
  | failed j _ _ => j = i
  | paid _ => False

instance (i : String) : DecidablePred (FailedFor i) := fun r =>
  match r with
  | failed j _ _ => inferInstanceAs (Decidable (j = i))
  | paid _ => inferInstanceAs (Decidable False)

end ShadowReport

open ShadowReport

/-- The observations that reports make. -/
def shadowObservations (reports : List ShadowReport) : Map String ShadowObservation :=
  reports.foldl enter Map.empty

/-- The invoice is observed as recovered by the baseline. -/
def InBaseline (obs : Map String ShadowObservation) (i : String) : Prop :=
  ∃ o, obs.get i = some o ∧ o.baselineRecovered = true

/-- A failure of the invoice was reported, then a payment, and then no failure. -/
def FailedThenPaid (reports : List ShadowReport) (i : String) : Prop :=
  ∃ pre post, reports = pre ++ .paid i :: post ∧ (∃ r ∈ pre, FailedFor i r) ∧
    ∀ r ∈ post, ¬ FailedFor i r

/-! ## The store -/

/-- A merchant that connects is in shadow, without observations. -/
theorem connect_eq (st : OnboardingStore) {merchantId processor : String} (hm : merchantId ≠ "")
    (hp : processor ≠ "") (now : String) : st.connect merchantId processor now =
      .ok (Map.set st merchantId ⟨beginOnboarding merchantId processor now, Map.empty⟩) := by
  rw [OnboardingStore.connect, if_neg]
  rintro (h | h)
  · exact hm h
  · exact hp h

/-- A change of the observations of one merchant in shadow. -/
theorem get_inShadow {st : OnboardingStore} {merchantId : String} {o : MerchantOnboarding}
    (h : st.get merchantId = some o) (hs : o.state.status = .shadow) (m : String)
    (f : Map String ShadowObservation → Map String ShadowObservation) :
    (st.inShadow m f).get merchantId =
      some (if m = merchantId then { o with observations := f o.observations } else o) := by
  unfold OnboardingStore.inShadow
  by_cases hm : m = merchantId
  · subst hm
    rw [h]
    simp only [hs, if_true]
    exact Map.get_set_self ..
  · rw [if_neg hm]
    cases hget : st.get m with
    | none => exact h
    | some o' =>
      simp only
      split_ifs
      · exact (Map.get_set_ne _ (Ne.symm hm) _).trans h
      · exact h

/-- The observations of a merchant that is not in shadow do not change. -/
theorem get_inShadow_of_not {st : OnboardingStore} {m : String}
    (hs : ∀ o, st.get m = some o → o.state.status ≠ .shadow) (m' : String)
    (f : Map String ShadowObservation → Map String ShadowObservation) :
    (st.inShadow m' f).get m = st.get m := by
  unfold OnboardingStore.inShadow
  split
  next o ho =>
    split_ifs with h
    · refine Map.get_set_ne _ ?_ _
      rintro rfl
      exact hs o ho h
    · rfl
  next => rfl

/-! ## The observations -/

section

variable {reports : List ShadowReport} {r : ShadowReport} {i : String}

theorem FailedThenPaid.mem (h : FailedThenPaid reports i) : .paid i ∈ reports := by
  obtain ⟨pre, post, rfl, -⟩ := h
  exact List.mem_append_right _ List.mem_cons_self

theorem shadowObservations_concat (reports : List ShadowReport) (r : ShadowReport) :
    shadowObservations (reports ++ [r]) = r.enter (shadowObservations reports) := by
  rw [shadowObservations, List.foldl_append]
  rfl

/-- With one more report an invoice has failed and then been paid, if it is the payment of one that
    failed, or no failure of one that had. -/
theorem failedThenPaid_concat : FailedThenPaid (reports ++ [r]) i ↔
    (r = .paid i ∧ ∃ f ∈ reports, FailedFor i f) ∨ FailedThenPaid reports i ∧ ¬ FailedFor i r := by
  constructor
  · rintro ⟨pre, post, heq, hfailed, hpost⟩
    rcases List.eq_nil_or_concat post with rfl | ⟨post, last, rfl⟩
    · obtain ⟨rfl, hr⟩ := List.append_inj' heq rfl
      exact .inl ⟨List.singleton_inj.1 hr, hfailed⟩
    · rw [List.concat_eq_append, ← List.cons_append, ← List.append_assoc] at heq
      obtain ⟨rfl, hr⟩ := List.append_inj' heq rfl
      obtain rfl := List.singleton_inj.1 hr
      refine .inr ⟨⟨pre, post, rfl, hfailed, ?_⟩, ?_⟩
      · intro f hf
        exact hpost f (by rw [List.concat_eq_append]; exact List.mem_append_left _ hf)
      · exact hpost r (by rw [List.concat_eq_append]; exact List.mem_concat_self)
  · rintro (⟨rfl, hfailed⟩ | ⟨⟨pre, post, rfl, hfailed, hpost⟩, hr⟩)
    · exact ⟨reports, [], rfl, hfailed, by simp⟩
    · refine ⟨pre, post ++ [r], by simp, hfailed, ?_⟩
      intro f hf
      rcases List.mem_append.1 hf with hf | hf
      · exact hpost f hf
      · rw [List.mem_singleton.1 hf]
        exact hr

/-- An invoice is observed if a failure of it was reported. -/
theorem shadowObservations_isSome :
    ((shadowObservations reports).get i).isSome ↔ ∃ r ∈ reports, FailedFor i r := by
  induction reports using List.reverseRecOn with
  | nil =>
    constructor
    · intro h
      cases h
    · rintro ⟨r, hr, -⟩
      cases hr
  | append_singleton reports r ih =>
    have hmore : (∃ f ∈ reports ++ [r], FailedFor i f) ↔
        (∃ f ∈ reports, FailedFor i f) ∨ FailedFor i r := by
      simp only [List.mem_append, List.mem_singleton, or_and_right, exists_or, exists_eq_left]
    rw [shadowObservations_concat, hmore, ← ih]
    cases r with
    | failed j code amount =>
      rw [enter, Map.get_set]
      by_cases hj : i = j
      · simp only [hj, if_true, Option.isSome_some, FailedFor, or_true]
      · simp only [hj, if_false, FailedFor, eq_comm (a := j), or_false]
    | paid j =>
      rw [enter]
      cases hget : (shadowObservations reports).get j with
      | none => simp only [FailedFor, or_false]
      | some o =>
        simp only
        rw [Map.get_set]
        by_cases hj : i = j
        · simp only [hj, if_true, hget, Option.isSome_some, FailedFor, or_false]
        · simp only [hj, if_false, FailedFor, or_false]

/-- The baseline is what failed and then was paid. -/
theorem inBaseline_iff : InBaseline (shadowObservations reports) i ↔ FailedThenPaid reports i := by
  induction reports using List.reverseRecOn with
  | nil =>
    constructor
    · rintro ⟨o, ho, -⟩
      cases ho
    · intro h
      cases h.mem
  | append_singleton reports r ih =>
    rw [failedThenPaid_concat, ← ih, ← shadowObservations_isSome, shadowObservations_concat]
    unfold InBaseline
    cases r with
    | failed j code amount =>
      rw [enter, Map.get_set]
      by_cases hj : i = j
      · simp [hj, FailedFor]
      · have hji : ¬ j = i := fun h => hj h.symm
        simp [hj, hji, FailedFor]
    | paid j =>
      rw [enter]
      cases hget : (shadowObservations reports).get j with
      | none =>
        by_cases hj : j = i
        · subst hj
          simp [hget, FailedFor]
        · simp [hj, FailedFor]
      | some o =>
        simp only
        rw [Map.get_set]
        by_cases hj : i = j
        · subst hj
          simp [hget]
        · have hji : ¬ j = i := fun h => hj h.symm
          simp [hj, hji, FailedFor]

end

/-! ## The projection -/

/-- The observations of the other invoices. -/
def others (obs : Map String ShadowObservation) (i : String) : List ShadowObservation :=
  (obs.entries.filter fun p => p.1 ≠ i).map Prod.snd

/-- Whatever the days and the configuration, the projection counts one more invoice as recovered by
    the baseline than without this one, and projects the same. -/
def Counted (obs : Map String ShadowObservation) (i : String) : Prop :=
  ∀ elapsedDays config,
    let p := projectShadow obs.values elapsedDays config
    let p' := projectShadow (others obs i) elapsedDays config
    p.baselineRecovered = p'.baselineRecovered + 1 ∧ p.missedValue = p'.missedValue ∧
      p.projectedIncrementalRecoveries = p'.projectedIncrementalRecoveries ∧
      p.projectedWindowValue = p'.projectedWindowValue ∧
      p.projectedMonthlyValue = p'.projectedMonthlyValue ∧
      p.projectedMonthlyConservative = p'.projectedMonthlyConservative ∧
      p.projectedMonthlyFee = p'.projectedMonthlyFee

/-- The totals of observations. -/
def shadowTotals (l : List ShadowObservation) : ShadowTotals := l.foldl ShadowTotals.observe {}

/-- What an observation that the baseline missed is worth. -/
def missed (worth : ShadowObservation → ℚ) (o : ShadowObservation) : ℚ :=
  if o.baselineRecovered then 0 else worth o

section

variable {obs : Map String ShadowObservation} {i : String} {l l' : List ShadowObservation}
  {o : ShadowObservation}

/-- A total that every observation adds to is a sum. -/
theorem foldl_observe {M : Type} [AddCommMonoid M] (total : ShadowTotals → M)
    (gain : ShadowObservation → M) (h : ∀ t o, total (t.observe o) = total t + gain o)
    (l : List ShadowObservation) (t : ShadowTotals) :
    total (l.foldl ShadowTotals.observe t) = total t + (l.map gain).sum := by
  induction l generalizing t with
  | nil => exact (add_zero _).symm
  | cons o l ih => rw [List.foldl_cons, ih, h, List.map_cons, List.sum_cons, add_assoc]

/-- A total that every observation adds to gains by one that is left out. -/
theorem shadowTotals_of_perm {M : Type} [AddCommMonoid M] (total : ShadowTotals → M)
    (gain : ShadowObservation → M) (h : ∀ t o, total (t.observe o) = total t + gain o)
    (hl : l.Perm (o :: l')) : total (shadowTotals l) = total (shadowTotals l') + gain o := by
  rw [shadowTotals, shadowTotals, foldl_observe total gain h, foldl_observe total gain h,
    (hl.map gain).sum_eq, List.map_cons, List.sum_cons, add_assoc, add_comm (gain o)]

theorem observe_baselineRecovered (t : ShadowTotals) (o : ShadowObservation) :
    (t.observe o).baselineRecovered =
      t.baselineRecovered + if o.baselineRecovered then 1 else 0 := by
  unfold ShadowTotals.observe
  split_ifs <;> rfl

theorem observe_missedValue (t : ShadowTotals) (o : ShadowObservation) :
    (t.observe o).missedValue = t.missedValue + missed (fun o => o.amount) o := by
  unfold ShadowTotals.observe missed
  split_ifs
  · exact (add_zero _).symm
  · rfl

theorem observe_projectedValue (t : ShadowTotals) (o : ShadowObservation) :
    (t.observe o).projectedValue =
      t.projectedValue + missed (fun o => o.amount * captureOfRemaining o.declineCode) o := by
  unfold ShadowTotals.observe missed
  split_ifs
  · exact (add_zero _).symm
  · rfl

theorem observe_projectedRecoveries (t : ShadowTotals) (o : ShadowObservation) :
    (t.observe o).projectedRecoveries =
      t.projectedRecoveries + missed (fun o => captureOfRemaining o.declineCode) o := by
  unfold ShadowTotals.observe missed
  split_ifs
  · exact (add_zero _).symm
  · rfl

/-- The observations are those of an invoice and those of the others. -/
theorem values_perm (h : obs.get i = some o) : obs.values.Perm (o :: others obs i) := by
  obtain ⟨pre, post, heq⟩ := List.append_of_mem (Map.mem_entries_of_get h)
  have hnodup := obs.nodup
  rw [heq, List.map_append, List.map_cons, List.nodup_append, List.nodup_cons] at hnodup
  obtain ⟨-, ⟨hpost, -⟩, hdisjoint⟩ := hnodup
  have hkeep : obs.entries.filter (fun p => p.1 ≠ i) = pre ++ post := by
    rw [heq, List.filter_append, List.filter_cons_of_neg (by simp)]
    congr 1
    · refine List.filter_eq_self.2 ?_
      intro p hp
      rw [decide_eq_true_eq]
      exact hdisjoint p.1 (List.mem_map_of_mem hp) i List.mem_cons_self
    · refine List.filter_eq_self.2 ?_
      intro p hp
      rw [decide_eq_true_eq]
      rintro rfl
      exact hpost (List.mem_map.2 ⟨p, hp, rfl⟩)
  rw [Map.values, others, hkeep, heq, List.map_append, List.map_cons, List.map_append]
  exact List.perm_middle

theorem values_of_none (h : obs.get i = none) : obs.values = others obs i := by
  rw [others, List.filter_eq_self.2, Map.values]
  intro p hp
  rw [decide_eq_true_eq]
  rintro rfl
  exact Map.get_eq_none_iff.1 h (List.mem_map_of_mem hp)

/-- The projection counts what is observed as recovered, and projects nothing of it. -/
theorem counted_iff_inBaseline : Counted obs i ↔ InBaseline obs i := by
  constructor
  · intro h
    have hcount : (shadowTotals obs.values).baselineRecovered =
        (shadowTotals (others obs i)).baselineRecovered + 1 :=
      (h none defaultProjectionConfig).1
    cases hget : obs.get i with
    | none =>
      rw [values_of_none hget] at hcount
      omega
    | some o =>
      refine ⟨o, hget, ?_⟩
      rw [shadowTotals_of_perm ShadowTotals.baselineRecovered _ observe_baselineRecovered
        (values_perm hget)] at hcount
      by_contra hmissed
      rw [if_neg hmissed] at hcount
      omega
  · rintro ⟨o, hget, hrecovered⟩ elapsedDays config
    have hperm := values_perm hget
    have hnothing : ∀ worth, missed worth o = 0 := fun worth => if_pos hrecovered
    have hcount := shadowTotals_of_perm ShadowTotals.baselineRecovered _
      observe_baselineRecovered hperm
    have hmissed := shadowTotals_of_perm ShadowTotals.missedValue _ observe_missedValue hperm
    have hvalue := shadowTotals_of_perm ShadowTotals.projectedValue _ observe_projectedValue hperm
    have hrecoveries := shadowTotals_of_perm ShadowTotals.projectedRecoveries _
      observe_projectedRecoveries hperm
    rw [if_pos hrecovered] at hcount
    rw [hnothing, add_zero] at hmissed hvalue hrecoveries
    unfold shadowTotals at hcount hmissed hvalue hrecoveries
    simp only [projectShadow, hcount, hmissed, hvalue, hrecoveries, and_self]

/-- The projection counts an invoice if and only if it failed and then was paid. -/
theorem counted_iff {reports : List ShadowReport} :
    Counted (shadowObservations reports) i ↔ FailedThenPaid reports i :=
  counted_iff_inBaseline.trans inBaseline_iff

end

end AX10M
