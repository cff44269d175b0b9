/-
  The latest record of a log.

  Records have an instant; a log need not be ordered by it.  Of two records at one
  instant, the one that stands later in the log counts as the later one.

  `latest` finds the latest record in one pass, and `IsLatest` says which it is
  (`latest_eq_some_iff`); a record appended at an instant past the others is the latest
  (`latest_concat_of_le`).
-/
import Mathlib.Data.List.Induction
import Mathlib.Order.Lattice

namespace Logs

variable {τ ν : Type*} [LinearOrder τ]

/-- A later record replaces an earlier one. -/
def later (acc : Option (τ × ν)) (p : τ × ν) : Option (τ × ν) :=
  if ∀ q ∈ acc, q.1 ≤ p.1 then some p else acc

/-- The latest record. -/
def latest (l : List (τ × ν)) : Option (τ × ν) := l.foldl later none

/-- The record is the latest of the log: none before it is later, all after it are earlier. -/
def IsLatest (l : List (τ × ν)) (p : τ × ν) : Prop :=
  ∃ before after, l = before ++ p :: after ∧ (∀ q ∈ before, q.1 ≤ p.1) ∧ ∀ q ∈ after, q.1 < p.1

variable {l : List (τ × ν)} {p q : τ × ν}

@[simp] theorem latest_nil : latest ([] : List (τ × ν)) = none := rfl

@[simp] theorem latest_concat (l : List (τ × ν)) (p : τ × ν) :
    latest (l ++ [p]) = later (latest l) p := by
  simp [latest]

theorem IsLatest.mem (h : IsLatest l p) : p ∈ l := by
  obtain ⟨before, after, rfl, -, -⟩ := h
  simp

theorem IsLatest.le (h : IsLatest l p) (hq : q ∈ l) : q.1 ≤ p.1 := by
  obtain ⟨before, after, rfl, hb, ha⟩ := h
  rcases List.mem_append.1 hq with hq | hq
  · exact hb q hq
  · rcases List.mem_cons.1 hq with rfl | hq
    · exact le_rfl
    · exact (ha q hq).le

theorem isLatest_concat_of_le (h : ∀ q ∈ l, q.1 ≤ p.1) : IsLatest (l ++ [p]) p :=
  ⟨l, [], rfl, h, by simp⟩

theorem IsLatest.concat_of_lt (h : IsLatest l p) (hq : q.1 < p.1) : IsLatest (l ++ [q]) p := by
  obtain ⟨before, after, rfl, hb, ha⟩ := h
  refine ⟨before, after ++ [q], by simp, hb, fun r hr => ?_⟩
  rcases List.mem_append.1 hr with hr | hr
  · exact ha r hr
  · rwa [List.mem_singleton.1 hr]

/-- Leaving other records out keeps the latest one. -/
theorem IsLatest.filter {P : τ × ν → Bool} (h : IsLatest l p) (hp : P p) :
    IsLatest (l.filter P) p := by
  obtain ⟨before, after, rfl, hb, ha⟩ := h
  refine ⟨before.filter P, after.filter P, by simp [hp], fun q hq => ?_, fun q hq => ?_⟩
  · exact hb q (List.mem_filter.1 hq).1
  · exact ha q (List.mem_filter.1 hq).1

/-- The pass finds a latest record, unless the log is empty. -/
theorem latest_spec (l : List (τ × ν)) :
    (l = [] ∧ latest l = none) ∨ ∃ p, latest l = some p ∧ IsLatest l p := by
  induction l using List.reverseRecOn with
  | nil => exact .inl ⟨rfl, rfl⟩
  | append_singleton l q ih =>
    refine .inr ?_
    rw [latest_concat]
    rcases ih with ⟨rfl, hl⟩ | ⟨p, hl, hp⟩
    · exact ⟨q, by simp [later], isLatest_concat_of_le (by simp)⟩
    · by_cases hq : p.1 ≤ q.1
      · exact ⟨q, by simp [later, hl, hq], isLatest_concat_of_le fun r hr => (hp.le hr).trans hq⟩
      · exact ⟨p, by simp [later, hl, hq], hp.concat_of_lt (not_le.1 hq)⟩

theorem latest_mem (h : latest l = some p) : p ∈ l := by
  rcases latest_spec l with ⟨-, hl⟩ | ⟨p', hl, hp⟩
  · rw [hl] at h
    cases h
  · rw [hl, Option.some.injEq] at h
    exact h ▸ hp.mem

theorem latest_eq_none_iff : latest l = none ↔ l = [] := by
  refine ⟨fun h => ?_, fun h => h ▸ rfl⟩
  rcases latest_spec l with ⟨rfl, -⟩ | ⟨p, hl, -⟩
  · rfl
  · rw [hl] at h
    cases h

/-- A record appended at an instant past the others is the latest. -/
theorem latest_concat_of_le (h : ∀ q ∈ l, q.1 ≤ p.1) : latest (l ++ [p]) = some p := by
  have hl : ∀ q ∈ latest l, q.1 ≤ p.1 := fun q hq => h q (latest_mem hq)
  rw [latest_concat, later, if_pos hl]

/-- Earlier records do not replace the latest one. -/
theorem foldl_later_of_lt (h : ∀ q ∈ l, q.1 < p.1) : l.foldl later (some p) = some p := by
  induction l with
  | nil => rfl
  | cons q l ih =>
    have hq : ¬ ∀ r ∈ some p, r.1 ≤ q.1 := fun hr =>
      absurd (hr p rfl) (not_le.2 (h q List.mem_cons_self))
    rw [List.foldl_cons, later, if_neg hq]
    exact ih fun r hr => h r (List.mem_cons_of_mem q hr)

theorem latest_eq_some_iff : latest l = some p ↔ IsLatest l p := by
  constructor
  · intro h
    rcases latest_spec l with ⟨-, hl⟩ | ⟨p', hl, hp⟩
    · rw [hl] at h
      cases h
    · rw [hl, Option.some.injEq] at h
      exact h ▸ hp
  · rintro ⟨before, after, rfl, hb, ha⟩
    have hp : before.foldl later none = latest before := rfl
    rw [latest, List.foldl_append, List.foldl_cons, hp, ← latest_concat, latest_concat_of_le hb]
    exact foldl_later_of_lt ha

end Logs
