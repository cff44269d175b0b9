/-
  Pooling by differences.

  Members of a pool learn on copies of a total that is stored once.  Each keeps the baseline its
  copy grew from, and a flush adds the difference of the two to what is stored then.  A tally of
  the steps tells what was saved and what is pending; what is stored is the sum of what was saved,
  and a copy is ahead of its baseline by the sum of what is pending (`tallied_run`).
-/
import Mathlib.Algebra.BigOperators.Group.Finset.Piecewise
import Mathlib.Algebra.BigOperators.Group.List.Basic
import Mathlib.Algebra.Order.Group.Multiset
import Mathlib.Tactic.Abel

namespace Pools

variable {G P O : Type*}

/-- A copy of the total, and what it was when it was taken. -/
structure Member (G : Type*) where
  current : G
  baseline : G

structure Pool (P G : Type*) where
  store : Option G
  members : P → Member G

inductive Step (P O : Type*) where
  | learn (p : P) (o : O)
  | load (p : P)
  | flush (p : P)

/-! ## The tally -/

/-- What was saved by a flush, and what each member learned since it last loaded or flushed. -/
structure Tally (P O : Type*) where
  saved : List O
  pending : P → List O

variable [DecidableEq P]

/-- A load drops what is pending, a flush saves it. -/
def Tally.after (t : Tally P O) : Step P O → Tally P O
  | .learn p o => { t with pending := Function.update t.pending p (t.pending p ++ [o]) }
  | .load p => { t with pending := Function.update t.pending p [] }
  | .flush p => ⟨t.saved ++ t.pending p, Function.update t.pending p []⟩

/-- The tally of some steps. -/
def tally (xs : List (Step P O)) : Tally P O := xs.foldl Tally.after ⟨[], fun _ => []⟩

theorem tally_append (xs ys : List (Step P O)) :
    tally (xs ++ ys) = ys.foldl Tally.after (tally xs) := List.foldl_append

/-- What was learned in some steps. -/
def learned (xs : List (Step P O)) : List O :=
  xs.filterMap fun
    | .learn _ o => some o
    | _ => none

/-- No member loads while something is pending. -/
def LoadsSettled (xs : List (Step P O)) : Prop :=
  ∀ pre p post, xs = pre ++ .load p :: post → (tally pre).pending p = []

theorem LoadsSettled.prefix {xs ys : List (Step P O)} (h : LoadsSettled (xs ++ ys)) :
    LoadsSettled xs := by
  intro pre p post hxs
  refine h pre p (post ++ ys) ?_
  rw [hxs, List.append_assoc, List.cons_append]

/-- The member a step is made by. -/
def Step.member : Step P O → P
  | .learn p _ | .load p | .flush p => p

omit [DecidableEq P] in
theorem learned_append_singleton (xs : List (Step P O)) (x : Step P O) :
    learned (xs ++ [x]) = learned xs ++ learned [x] := List.filterMap_append

/-- What is pending when one member's list is replaced. -/
theorem sum_pending_update {members : Finset P} {p : P} (hp : p ∈ members) (pending : P → List O)
    (l : List O) : ∑ q ∈ members, (Function.update pending p l q : Multiset O) =
      (l : Multiset O) + ∑ q ∈ members \ {p}, (pending q : Multiset O) := by
  rw [← Finset.sum_update_of_mem hp]
  refine Finset.sum_congr rfl fun q _ => ?_
  by_cases hq : q = p
  · subst hq
    simp
  · simp [hq]

/-- What is saved or pending is what was learned, if no load drops anything. -/
theorem saved_add_pending {members : Finset P} {xs : List (Step P O)} (hloads : LoadsSettled xs)
    (hmem : ∀ x ∈ xs, x.member ∈ members) :
    ((tally xs).saved : Multiset O) + ∑ p ∈ members, ((tally xs).pending p : Multiset O) =
      (learned xs : Multiset O) := by
  induction xs using List.reverseRecOn with
  | nil => simp [tally, learned]
  | append_singleton xs x ih =>
    have hbefore := ih hloads.prefix fun y hy => hmem y (List.mem_append_left _ hy)
    have hx : x.member ∈ members := hmem x (by simp)
    have hsplit := sum_pending_update hx (tally xs).pending ((tally xs).pending x.member)
    rw [Function.update_eq_self] at hsplit
    rw [tally_append, learned_append_singleton, ← Multiset.coe_add, ← hbefore, hsplit]
    cases x with
    | learn p o =>
      simp only [List.foldl_cons, List.foldl_nil, Tally.after, Step.member]
      rw [sum_pending_update (p := p) hx, ← Multiset.coe_add]
      simp only [learned, List.filterMap_cons, List.filterMap_nil]
      abel
    | load p =>
      have hpending : (tally xs).pending p = [] := hloads xs p [] rfl
      simp only [List.foldl_cons, List.foldl_nil, Tally.after, Step.member]
      rw [sum_pending_update (p := p) hx, hpending]
      simp [learned]
    | flush p =>
      simp only [List.foldl_cons, List.foldl_nil, Tally.after, Step.member]
      rw [sum_pending_update (p := p) hx, ← Multiset.coe_add]
      simp only [learned, List.filterMap_cons, List.filterMap_nil, Multiset.coe_nil, zero_add,
        add_zero, add_assoc]

/-- Once nothing is pending, each observation was saved exactly once. -/
theorem saved_perm_learned {xs : List (Step P O)} (hloads : LoadsSettled xs)
    (hpending : ∀ p, (tally xs).pending p = []) : (tally xs).saved.Perm (learned xs) := by
  have hmem : ∀ x ∈ xs, x.member ∈ (xs.map Step.member).toFinset :=
    fun x hx => List.mem_toFinset.2 (List.mem_map_of_mem hx)
  have hsum := saved_add_pending hloads hmem
  rw [Finset.sum_eq_zero fun p _ => by rw [hpending p]; rfl, add_zero] at hsum
  exact Multiset.coe_eq_coe.1 hsum

/-! ## The pool -/

variable [AddCommGroup G]

section

variable (gain : O → G) (empty : G)

/-- One step; a load of an empty store makes the copy the baseline. -/
def Pool.after (s : Pool P G) : Step P O → Pool P G
  | .learn p o =>
    let m := s.members p
    { s with members := Function.update s.members p { m with current := m.current + gain o } }
  | .load p =>
    let total := s.store.getD (s.members p).current
    { s with members := Function.update s.members p ⟨total, total⟩ }
  | .flush p =>
    let m := s.members p
    let merged := s.store.getD empty + (m.current - m.baseline)
    ⟨some merged, Function.update s.members p ⟨merged, merged⟩⟩

/-- The store holds what was saved, each member what is pending. -/
structure Tallied (s : Pool P G) (t : Tally P O) : Prop where
  store : s.store.getD empty = empty + (t.saved.map gain).sum
  members : ∀ p, (s.members p).current - (s.members p).baseline = ((t.pending p).map gain).sum

variable {gain empty}

theorem Tallied.after {s : Pool P G} {t : Tally P O} (h : Tallied gain empty s t)
    (x : Step P O) : Tallied gain empty (s.after gain empty x) (t.after x) := by
  cases x with
  | learn p o =>
    refine ⟨h.store, ?_⟩
    intro q
    by_cases hq : q = p
    · subst hq
      simp only [Pool.after, Tally.after, Function.update_self, List.map_append, List.sum_append,
        ← h.members q, List.map_singleton, List.sum_singleton]
      abel
    · simp only [Pool.after, Tally.after, Function.update_of_ne hq, h.members q]
  | load p =>
    refine ⟨h.store, ?_⟩
    intro q
    by_cases hq : q = p
    · subst hq
      simp [Pool.after, Tally.after]
    · simp only [Pool.after, Tally.after, Function.update_of_ne hq, h.members q]
  | flush p =>
    constructor
    · simp only [Pool.after, Tally.after, Option.getD_some, h.store, h.members p, List.map_append,
        List.sum_append]
      abel
    · intro q
      by_cases hq : q = p
      · subst hq
        simp [Pool.after, Tally.after]
      · simp only [Pool.after, Tally.after, Function.update_of_ne hq, h.members q]

/-- A pool that starts without a store, with every copy at its baseline. -/
theorem tallied_run {s : Pool P G} (hstore : s.store = none)
    (hmembers : ∀ p, (s.members p).current = (s.members p).baseline) (xs : List (Step P O)) :
    Tallied gain empty (xs.foldl (Pool.after gain empty) s) (tally xs) := by
  induction xs using List.reverseRecOn with
  | nil =>
    constructor
    · simp [hstore, tally]
    · intro p
      simp [hmembers p, tally]
  | append_singleton xs x ih =>
    rw [List.foldl_append, tally_append]
    exact ih.after x

end

end Pools
