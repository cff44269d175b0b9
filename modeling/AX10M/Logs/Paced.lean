/-
  Rate limits over a log of events.

  Events have a key and an instant, and each brings the cap and the gap it is held to.  A
  log is `Paced` if every event found fewer earlier events of its key than its cap, none of
  them closer than its gap.

  Of events of one key and one cap there are then no more than the cap (`Paced.length_le`),
  and any two of them are a gap apart (`Paced.pairwise`).
-/
import Mathlib.Algebra.Order.Ring.Int
import Mathlib.Data.List.Induction

namespace Logs

variable {ε κ : Type*} [DecidableEq κ]

/-- What events are limited by. -/
structure Limits (ε κ : Type*) where
  key : ε → κ
  time : ε → ℤ
  cap : ε → ℤ
  gap : ε → ℤ

namespace Limits

variable (L : Limits ε κ)

/-- The events of a key. -/
def ofKey (k : κ) (l : List ε) : List ε := l.filter fun e => L.key e = k

/-- After the log, the event is within its limits. -/
def Clear (l : List ε) (e : ε) : Prop :=
  ((L.ofKey (L.key e) l).length : ℤ) < L.cap e ∧
    ∀ e' ∈ L.ofKey (L.key e) l, L.time e' + L.gap e ≤ L.time e

/-- Every event of the log is within its limits. -/
def Paced (l : List ε) : Prop := ∀ before e after, l = before ++ e :: after → L.Clear before e

variable {L} {l : List ε} {e : ε}

@[simp] theorem ofKey_nil (k : κ) : L.ofKey k [] = [] := rfl

theorem mem_ofKey {k : κ} : e ∈ L.ofKey k l ↔ e ∈ l ∧ L.key e = k := by simp [ofKey]

theorem ofKey_concat (k : κ) :
    L.ofKey k (l ++ [e]) = L.ofKey k l ++ if L.key e = k then [e] else [] := by
  by_cases h : L.key e = k <;> simp [ofKey, h]

theorem paced_nil : L.Paced [] := by
  intro before e after h
  simp at h

/-- An event within its limits after a paced log. -/
theorem Paced.concat (h : L.Paced l) (he : L.Clear l e) : L.Paced (l ++ [e]) := by
  intro before e' after heq
  rcases List.eq_nil_or_concat after with rfl | ⟨after', last, rfl⟩
  · obtain ⟨rfl, hlast⟩ := List.append_inj' heq rfl
    obtain rfl := (List.cons.inj hlast).1
    exact he
  · rw [List.concat_eq_append, ← List.cons_append, ← List.append_assoc] at heq
    exact h before e' after' (List.append_inj' heq rfl).1

theorem Paced.of_concat (h : L.Paced (l ++ [e])) : L.Paced l ∧ L.Clear l e :=
  ⟨fun before e' after heq => h before e' (after ++ [e]) (by simp [heq]), h l e [] rfl⟩

/-- Two events of one key are a gap apart. -/
theorem Paced.pairwise (h : L.Paced l) :
    l.Pairwise fun e e' => L.key e = L.key e' → L.time e + L.gap e' ≤ L.time e' := by
  induction l using List.reverseRecOn with
  | nil => exact .nil
  | append_singleton l e ih =>
    obtain ⟨hl, he⟩ := h.of_concat
    refine List.pairwise_append.2 ⟨ih hl, List.pairwise_singleton _ _, ?_⟩
    intro e' he' e'' he'' hk
    obtain rfl := List.mem_singleton.1 he''
    exact he.2 e' (mem_ofKey.2 ⟨he', hk⟩)

/-- There are no more events of a kind, all of one key, than their cap. -/
theorem Paced.length_le {P : ε → Bool} {k : κ} {n : ℤ} (h : L.Paced l) (hn : 0 ≤ n)
    (hP : ∀ e ∈ l, P e → L.key e = k ∧ L.cap e = n) : ((l.filter P).length : ℤ) ≤ n := by
  induction l using List.reverseRecOn with
  | nil => simpa using hn
  | append_singleton l e ih =>
    obtain ⟨hl, he⟩ := h.of_concat
    by_cases hPe : P e
    · obtain ⟨rfl, rfl⟩ := hP e (by simp) hPe
      -- the earlier ones are of the key too
      have hsub : (l.filter P).length ≤ (L.ofKey (L.key e) l).length := by
        rw [ofKey, ← List.countP_eq_length_filter, ← List.countP_eq_length_filter]
        refine List.countP_mono_left fun e' he' hPe' => ?_
        simpa using (hP e' (List.mem_append_left _ he') hPe').1
      have hlt := he.1
      rw [List.filter_append, List.filter_cons_of_pos hPe, List.filter_nil, List.length_append,
        List.length_singleton]
      omega
    · rw [List.filter_append, List.filter_cons_of_neg hPe, List.filter_nil, List.append_nil]
      exact ih hl fun e' he' => hP e' (List.mem_append_left _ he')

end Limits

end Logs
