/-
  Lists read in parts, and reports of a running total.

  Items that are picked by disjoint filters, one filter after the other, are the items that are
  picked by some of the filters, in another order; so sums over the parts are sums over the whole.
  Where each element of a list reports a total, and brings about a gain, `AddsUp` says that after
  every element the gains so far sum to the total that it reports.  `addsUp_iff`: they do if and
  only if every element gains what its total exceeds the one before.
-/
import Mathlib.Algebra.BigOperators.Group.List.Basic
import Mathlib.Algebra.BigOperators.Group.List.Lemmas
import Mathlib.Data.List.Induction
import Mathlib.Data.List.Nodup

/-! ## Parts -/

namespace Logs

variable {α β κ ι : Type*} [DecidableEq κ]

/-- Two filters that pick no item both pick what either of them picks. -/
theorem filter_append_filter {p q : α → Bool} {l : List α} (h : ∀ x ∈ l, p x → q x → False) :
    (l.filter p ++ l.filter q).Perm (l.filter fun x => p x || q x) := by
  have hp : (l.filter fun x => p x || q x).filter p = l.filter p := by
    rw [List.filter_filter]
    exact List.filter_congr fun x _ => by cases p x <;> simp
  have hq : ((l.filter fun x => p x || q x).filter fun x => !p x) = l.filter q := by
    rw [List.filter_filter]
    refine List.filter_congr fun x hx => ?_
    have := h x hx
    cases hpx : p x <;> cases hqx : q x <;> simp_all
  have hparts := List.filter_append_perm p (l.filter fun x => p x || q x)
  rwa [hp, hq] at hparts

/-- Disjoint parts of a list, one after the other, are all that is in some part. -/
theorem flatMap_filter_perm (parts : List ι) (p : ι → α → Bool) (l : List α)
    (h : parts.Pairwise fun i j => ∀ x ∈ l, p i x → p j x → False) :
    (parts.flatMap fun i => l.filter (p i)).Perm (l.filter fun x => parts.any fun i => p i x) := by
  induction parts with
  | nil => simp
  | cons i parts ih =>
    obtain ⟨hi, hparts⟩ := List.pairwise_cons.1 h
    have hdisjoint : ∀ x ∈ l, p i x → (parts.any fun j => p j x) → False := by
      intro x hx hpi hany
      obtain ⟨j, hj, hpj⟩ := List.any_eq_true.1 hany
      exact hi j hj x hx hpi hpj
    simp only [List.flatMap_cons, List.any_cons]
    exact ((ih hparts).append_left _).trans (filter_append_filter hdisjoint)

/-- A sum over some names, of what the items of each name come to, is a sum over the items of the
    names. -/
theorem sum_by_name [AddCommMonoid β] (name : α → Option κ) (value : α → Option β)
    (l : List α) {names : List κ} (h : names.Nodup) :
    (names.map fun n => ((l.filter fun x => name x = some n).filterMap value).sum).sum =
      ((l.filter fun x => (name x).any (· ∈ names)).filterMap value).sum := by
  have hdisjoint : names.Pairwise fun n n' => ∀ x ∈ l,
      decide (name x = some n) → decide (name x = some n') → False := by
    refine h.imp fun hne x _ hn hn' => hne ?_
    exact Option.some.inj ((of_decide_eq_true hn).symm.trans (of_decide_eq_true hn'))
  have hperm := flatMap_filter_perm names (fun n x => decide (name x = some n)) l hdisjoint
  have hany : ∀ x, (names.any fun n => decide (name x = some n)) =
      (name x).any (· ∈ names) := by
    intro x
    cases name x with
    | none => simp
    | some n =>
      rw [Bool.eq_iff_iff, List.any_eq_true]
      simp
  simp only [hany] at hperm
  rw [← (hperm.filterMap value).sum_eq, List.filterMap_flatMap, List.flatMap_def,
    List.sum_flatten, List.map_map]
  rfl

end Logs

/-! ## Running totals -/

namespace Logs

variable {α M : Type} [AddCommMonoid M] (gain total : α → M)

/-- After every element, the gains sum to its total. -/
def AddsUp (xs : List α) : Prop :=
  ∀ pre x, pre ++ [x] <+: xs → ((pre ++ [x]).map gain).sum = total x

/-- The last total reported, nothing at first. -/
def lastTotal (xs : List α) : M := (xs.getLast?.map total).getD 0

@[simp] theorem lastTotal_nil : lastTotal total ([] : List α) = 0 := rfl

@[simp] theorem lastTotal_append (xs : List α) (x : α) : lastTotal total (xs ++ [x]) = total x := by
  rw [lastTotal, List.getLast?_concat, Option.map_some, Option.getD_some]

variable {gain total} {xs : List α}

/-- The gains of an initial part sum to its last total. -/
theorem AddsUp.sum_eq (h : AddsUp gain total xs) {pre : List α} (hpre : pre <+: xs) :
    (pre.map gain).sum = lastTotal total pre := by
  rcases List.eq_nil_or_concat pre with rfl | ⟨pre, x, rfl⟩
  · rfl
  · rw [List.concat_eq_append] at hpre ⊢
    rw [h pre x hpre, lastTotal_append]

/-- Gains that are what the totals exceed the ones before sum to the last total. -/
theorem sum_of_increments
    (h : ∀ pre x, pre ++ [x] <+: xs → total x = lastTotal total pre + gain x) {pre : List α}
    (hpre : pre <+: xs) : (pre.map gain).sum = lastTotal total pre := by
  induction pre using List.reverseRecOn with
  | nil => rfl
  | append_singleton pre x ih =>
    rw [List.map_append, List.sum_append, List.map_singleton, List.sum_singleton, lastTotal_append,
      ih ((List.prefix_append pre [x]).trans hpre), h pre x hpre]

theorem addsUp_iff : AddsUp gain total xs ↔
    ∀ pre x, pre ++ [x] <+: xs → total x = lastTotal total pre + gain x := by
  constructor
  · intro h pre x hpre
    have hsum := h pre x hpre
    rw [List.map_append, List.sum_append, List.map_singleton, List.sum_singleton,
      h.sum_eq ((List.prefix_append pre [x]).trans hpre)] at hsum
    exact hsum.symm
  · intro h pre x hpre
    rw [sum_of_increments h hpre, lastTotal_append]

/-- What is not the last element of a list has one after it. -/
theorem exists_next_of_mem_dropLast {x : α} (hx : x ∈ xs.dropLast) :
    ∃ pre next post, xs = pre ++ x :: next :: post := by
  obtain ⟨pre, post, hxs⟩ := List.append_of_mem hx
  have hne : xs ≠ [] := by
    rintro rfl
    cases hx
  have hsplit := List.dropLast_append_getLast hne
  rw [hxs, List.append_assoc, List.cons_append] at hsplit
  cases post with
  | nil => exact ⟨pre, _, [], hsplit.symm⟩
  | cons next post => exact ⟨pre, next, _, hsplit.symm⟩

theorem mem_dropLast_of_shorter {pre : List α} {x y : α} (h : pre ++ [x] ++ [y] <+: xs) :
    x ∈ xs.dropLast := by
  obtain ⟨post, rfl⟩ := h
  rw [List.append_assoc, List.singleton_append,
    List.dropLast_append_of_ne_nil (List.cons_ne_nil _ _)]
  exact List.mem_append_left _ (List.mem_append_right _ (List.mem_singleton_self x))

end Logs
