/-
  Maps into which a loop groups the items of a list by their keys.

  `entries_groupBy`: the entries are the keys in the order of their first items, each with what all
  of its items add up to.  `entries_perm` and `entries_relabel` say what becomes of them in another
  order of the items, and under other keys; `sum_itemsOf` and `sum_countP_itemsOf` that the groups
  are a partition.
-/
import AX10M.Js.Map
import AX10M.Logs.First
import Mathlib.Algebra.GroupWithZero.Nat
import Mathlib.Algebra.BigOperators.Group.Finset.Piecewise

namespace Js

open Logs

variable {α κ κ' β β' γ : Type*} [DecidableEq κ] [DecidableEq κ']

theorem Map.entries_set_new {m : Map κ β} {k : κ} (h : m.get k = none) (v : β) :
    (m.set k v).entries = m.entries ++ [(k, v)] := by
  have hnew : ¬ m.has k := by simp [Map.has, h]
  unfold Map.set
  rw [dif_neg hnew]

omit [DecidableEq κ] in
theorem Map.keys_nodup (m : Map κ β) : m.keys.Nodup := m.nodup

theorem Map.keys_set (m : Map κ β) (k : κ) (v : β) :
    (m.set k v).keys = if m.has k then m.keys else m.keys ++ [k] := by
  unfold Map.set
  split
  · exact Map.map_replace_fst ..
  · rw [Map.keys, List.map_append]
    rfl

/-- Add each item to what its key has, which is `init` at first. -/
def groupBy (key : α → κ) (push : β → α → β) (init : β) (xs : List α) : Map κ β :=
  xs.foldl (fun m x => m.set (key x) (push ((m.get (key x)).getD init) x)) Map.empty

/-- The items of a key. -/
def itemsOf (key : α → κ) (k : κ) (xs : List α) : List α := xs.filter fun x => key x = k

section

variable {key : α → κ} {push : β → α → β} {init : β} {xs ys : List α}

theorem groupBy_concat (key : α → κ) (push : β → α → β) (init : β) (xs : List α) (x : α) :
    groupBy key push init (xs ++ [x]) =
      (groupBy key push init xs).set (key x)
        (push (((groupBy key push init xs).get (key x)).getD init) x) := by
  rw [groupBy, List.foldl_append]
  rfl

theorem itemsOf_concat (key : α → κ) (k : κ) (xs : List α) (x : α) :
    itemsOf key k (xs ++ [x]) = itemsOf key k xs ++ if key x = k then [x] else [] := by
  rw [itemsOf, List.filter_append, List.filter_singleton]
  split_ifs with h
  · rw [decide_eq_true h]
    rfl
  · rw [decide_eq_false h]
    rfl

theorem itemsOf_eq_nil {k : κ} : itemsOf key k xs = [] ↔ ∀ x ∈ xs, key x ≠ k := by
  simp [itemsOf, List.filter_eq_nil_iff]

theorem itemsOf_map (key : α → κ) (f : γ → α) (k : κ) (xs : List γ) :
    itemsOf key k (xs.map f) = (itemsOf (fun x => key (f x)) k xs).map f := List.filter_map

/-- What a key that has items has. -/
theorem get_groupBy (k : κ) : (groupBy key push init xs).get k =
    if itemsOf key k xs = [] then none else some ((itemsOf key k xs).foldl push init) := by
  induction xs using List.reverseRecOn with
  | nil => rfl
  | append_singleton xs x ih =>
    rw [groupBy_concat, Map.get_set, itemsOf_concat]
    by_cases hk : k = key x
    · subst hk
      have hne : itemsOf key (key x) xs ++ [x] ≠ [] := by simp
      rw [if_pos rfl, if_pos rfl, if_neg hne, ih, List.foldl_append]
      split_ifs with hnil
      · rw [hnil]
        rfl
      · rfl
    · rw [if_neg hk, if_neg (Ne.symm hk), List.append_nil, ih]

/-- What each key has that has items. -/
theorem getD_groupBy (k : κ) :
    ((groupBy key push init xs).get k).getD init = (itemsOf key k xs).foldl push init := by
  rw [get_groupBy]
  split_ifs with h
  · rw [h]
    rfl
  · rfl

/-- The keys are those of the first items. -/
theorem keys_groupBy : (groupBy key push init xs).keys = (firsts key xs).map key := by
  induction xs using List.reverseRecOn with
  | nil => rfl
  | append_singleton xs x ih =>
    have hhas : ((groupBy key push init xs).has (key x) : Prop) ↔ ∃ b ∈ xs, key b = key x := by
      rw [Map.has, get_groupBy]
      split_ifs with hnil
      · simp only [Option.isSome_none, Bool.false_eq_true, false_iff, not_exists, not_and]
        exact itemsOf_eq_nil.1 hnil
      · simp only [Option.isSome_some, true_iff]
        by_contra hnone
        refine hnil (itemsOf_eq_nil.2 fun b hb hk => hnone ⟨b, hb, hk⟩)
    rw [groupBy_concat, Map.keys_set, firsts_concat, ih]
    by_cases h : ∃ b ∈ xs, key b = key x
    · rw [if_pos h, if_pos (hhas.2 h)]
    · rw [if_neg h, if_neg fun hh => h (hhas.1 hh), List.map_append]
      rfl

theorem mem_keys_groupBy {k : κ} : k ∈ (groupBy key push init xs).keys ↔ ∃ x ∈ xs, key x = k := by
  rw [keys_groupBy, List.mem_map, exists_firsts_iff]

/-- The entries are the keys, each with what its items add up to. -/
theorem entries_groupBy : (groupBy key push init xs).entries =
    (groupBy key push init xs).keys.map fun k => (k, (itemsOf key k xs).foldl push init) := by
  rw [Map.keys, List.map_map]
  refine (List.map_id _).symm.trans (List.map_congr_left ?_)
  rintro ⟨k, v⟩ hmem
  have hget := Map.get_eq_some_iff.2 hmem
  have hval : ((groupBy key push init xs).get k).getD init = _ := getD_groupBy k
  rw [hget, Option.getD_some] at hval
  exact Prod.ext rfl hval

/-! ## Another order, and other keys -/

/-- In another order of the items, the keys are the same ones. -/
theorem keys_perm {push' : γ → α → γ} {init' : γ} (h : xs.Perm ys) :
    (groupBy key push init xs).keys.Perm (groupBy key push' init' ys).keys := by
  refine (List.perm_ext_iff_of_nodup (groupBy key push init xs).nodup
    (groupBy key push' init' ys).nodup).2 fun k => ?_
  have hxs : k ∈ (groupBy key push init xs).keys ↔ ∃ x ∈ xs, key x = k := mem_keys_groupBy
  have hys : k ∈ (groupBy key push' init' ys).keys ↔ ∃ x ∈ ys, key x = k := mem_keys_groupBy
  rw [Map.keys] at hxs hys
  rw [hxs, hys]
  simp only [h.mem_iff]

theorem itemsOf_perm (h : xs.Perm ys) (k : κ) : (itemsOf key k xs).Perm (itemsOf key k ys) :=
  h.filter _

/-- What is read of the entries in another order of the items, if it is the same for items in
    another order. -/
theorem entries_perm {push' : γ → α → γ} {init' : γ} {δ : Type*} {f : κ × β → δ} {g : κ × γ → δ}
    (h : xs.Perm ys) (hfg : ∀ k, f (k, (itemsOf key k xs).foldl push init) =
      g (k, (itemsOf key k ys).foldl push' init')) :
    ((groupBy key push init xs).entries.map f).Perm
      ((groupBy key push' init' ys).entries.map g) := by
  rw [entries_groupBy, entries_groupBy, List.map_map, List.map_map]
  have hf : f ∘ (fun k => (k, (itemsOf key k xs).foldl push init)) =
      g ∘ fun k => (k, (itemsOf key k ys).foldl push' init') := funext hfg
  rw [hf]
  exact (keys_perm h).map _

/-- The first items of keys that tell the same items apart. -/
theorem firsts_congr {key' : α → κ'}
    (h : ∀ x ∈ xs, ∀ y ∈ xs, key x = key y ↔ key' x = key' y) : firsts key xs = firsts key' xs := by
  induction xs using List.reverseRecOn with
  | nil => rfl
  | append_singleton xs x ih =>
    have hih := ih fun y hy z hz =>
      h y (List.mem_append_left _ hy) z (List.mem_append_left _ hz)
    have hiff : (∃ b ∈ xs, key b = key x) ↔ ∃ b ∈ xs, key' b = key' x := by
      refine exists_congr fun b => and_congr_right fun hb => ?_
      exact h b (List.mem_append_left _ hb) x List.mem_concat_self
    rw [firsts_concat, firsts_concat, hih]
    simp only [hiff]

end

theorem firsts_map (key' : γ → κ') (f : α → γ) (xs : List α) :
    firsts key' (xs.map f) = (firsts (key' ∘ f) xs).map f := by
  induction xs using List.reverseRecOn with
  | nil => rfl
  | append_singleton xs x ih =>
    have hiff : (∃ b ∈ xs.map f, key' b = key' (f x)) ↔
        ∃ b ∈ xs, (key' ∘ f) b = (key' ∘ f) x := by
      simp only [List.mem_map, exists_exists_and_eq_and, Function.comp_apply]
    rw [List.map_append, List.map_singleton, firsts_concat, firsts_concat, ih]
    by_cases h : ∃ b ∈ xs, (key' ∘ f) b = (key' ∘ f) x
    · rw [if_pos h, if_pos (hiff.2 h)]
    · rw [if_neg h, if_neg fun hh => h (hiff.1 hh), List.map_append, List.map_singleton]

section

variable {key : α → κ} {key' : γ → κ'} {f : α → γ} {ρ : κ → κ'} {xs : List α}

omit [DecidableEq κ] [DecidableEq κ'] in
/-- Keys that are renamed tell the same items apart. -/
theorem relabel_iff (hkey : ∀ x ∈ xs, key' (f x) = ρ (key x))
    (hρ : ∀ x ∈ xs, ∀ y ∈ xs, ρ (key x) = ρ (key y) → key x = key y) :
    ∀ x ∈ xs, ∀ y ∈ xs, (key' ∘ f) x = (key' ∘ f) y ↔ key x = key y := by
  intro x hx y hy
  rw [Function.comp_apply, Function.comp_apply, hkey x hx, hkey y hy]
  exact ⟨hρ x hx y hy, congrArg ρ⟩

theorem keys_relabel {push : β → α → β} {init : β} {push' : β' → γ → β'} {init' : β'}
    (hkey : ∀ x ∈ xs, key' (f x) = ρ (key x))
    (hρ : ∀ x ∈ xs, ∀ y ∈ xs, ρ (key x) = ρ (key y) → key x = key y) :
    (groupBy key' push' init' (xs.map f)).keys = (groupBy key push init xs).keys.map ρ := by
  have hsame := relabel_iff hkey hρ
  rw [keys_groupBy, keys_groupBy, firsts_map,
    ← firsts_congr fun x hx y hy => (hsame x hx y hy).symm, List.map_map, List.map_map]
  exact List.map_congr_left fun x hx => hkey x (mem_of_mem_firsts hx)

theorem itemsOf_relabel (hkey : ∀ x ∈ xs, key' (f x) = ρ (key x))
    (hρ : ∀ x ∈ xs, ∀ y ∈ xs, ρ (key x) = ρ (key y) → key x = key y) {k : κ}
    (hk : ∃ x ∈ xs, key x = k) : itemsOf key' (ρ k) (xs.map f) = (itemsOf key k xs).map f := by
  obtain ⟨x, hx, rfl⟩ := hk
  rw [itemsOf, itemsOf, List.filter_map, ← hkey x hx]
  refine congrArg (List.map f) (List.filter_congr fun y hy => ?_)
  simpa using relabel_iff hkey hρ y hy x hx

/-- Items whose keys are renamed make the same groups, under the new keys. -/
theorem entries_relabel {push : β → α → β} {push' : β → γ → β} {init : β}
    (hkey : ∀ x ∈ xs, key' (f x) = ρ (key x))
    (hρ : ∀ x ∈ xs, ∀ y ∈ xs, ρ (key x) = ρ (key y) → key x = key y)
    (hpush : ∀ b, ∀ x ∈ xs, push' b (f x) = push b x) :
    (groupBy key' push' init (xs.map f)).entries =
      (groupBy key push init xs).entries.map fun p => (ρ p.1, p.2) := by
  have hfold : ∀ l : List α, (∀ x ∈ l, x ∈ xs) → ∀ b,
      (l.map f).foldl push' b = l.foldl push b := by
    intro l hl
    induction l with
    | nil => exact fun b => rfl
    | cons x l ih =>
      intro b
      rw [List.map_cons, List.foldl_cons, List.foldl_cons, hpush b x (hl x List.mem_cons_self)]
      exact ih (fun y hy => hl y (List.mem_cons_of_mem x hy)) _
  have hkeys : (groupBy key' push' init (xs.map f)).keys =
      (groupBy key push init xs).keys.map ρ := keys_relabel hkey hρ
  rw [entries_groupBy, entries_groupBy, hkeys, List.map_map, List.map_map]
  refine List.map_congr_left fun k hk => ?_
  have hk' := mem_keys_groupBy.1 hk
  have hsub : ∀ y ∈ itemsOf key k xs, y ∈ xs := fun y hy => List.mem_of_mem_filter hy
  simp only [Function.comp_apply]
  rw [itemsOf_relabel hkey hρ hk', hfold _ hsub]

end

/-! ## The groups are a partition -/

/-- Every item is an item of one key. -/
theorem sum_countP_itemsOf {key : α → κ} (p : α → Bool) {ks : List κ} (hnodup : ks.Nodup)
    {xs : List α} (hks : ∀ x ∈ xs, key x ∈ ks) :
    (ks.map fun k => (itemsOf key k xs).countP p).sum = xs.countP p := by
  induction xs with
  | nil => simp [itemsOf]
  | cons x xs ih =>
    have hcons : ∀ k, (itemsOf key k (x :: xs)).countP p =
        (itemsOf key k xs).countP p + if key x = k then (if p x then 1 else 0) else 0 := by
      intro k
      rw [itemsOf, List.filter_cons]
      by_cases hk : key x = k
      · rw [if_pos (decide_eq_true hk), if_pos hk, List.countP_cons]
        rfl
      · rw [if_neg (by simpa using hk), if_neg hk, add_zero]
        rfl
    have hone : (ks.map fun k => if key x = k then (if p x then 1 else 0) else 0).sum =
        if p x then 1 else 0 := by
      rw [← List.sum_toFinset _ hnodup, Finset.sum_ite_eq,
        if_pos (List.mem_toFinset.2 (hks x List.mem_cons_self))]
    simp only [hcons]
    rw [List.sum_map_add, ih fun y hy => hks y (List.mem_cons_of_mem x hy), hone, List.countP_cons]

/-- A sum over the groups is a sum over the items. -/
theorem sum_itemsOf {M : Type*} [AddCommMonoid M] {key : α → κ} (g : α → M) {ks : List κ}
    (hnodup : ks.Nodup) {xs : List α} (hks : ∀ x ∈ xs, key x ∈ ks) :
    (ks.map fun k => ((itemsOf key k xs).map g).sum).sum = (xs.map g).sum := by
  induction xs with
  | nil => simp [itemsOf]
  | cons x xs ih =>
    have hcons : ∀ k, ((itemsOf key k (x :: xs)).map g).sum =
        ((if key x = k then g x else 0) + ((itemsOf key k xs).map g).sum) := by
      intro k
      rw [itemsOf, List.filter_cons]
      by_cases hk : key x = k
      · rw [if_pos (decide_eq_true hk), if_pos hk]
        rfl
      · rw [if_neg (by simpa using hk), if_neg hk, zero_add]
        rfl
    have hone : (ks.map fun k => if key x = k then g x else 0).sum = g x := by
      rw [← List.sum_toFinset _ hnodup, Finset.sum_ite_eq,
        if_pos (List.mem_toFinset.2 (hks x List.mem_cons_self))]
    simp only [hcons]
    rw [List.sum_map_add, hone, ih fun y hy => hks y (List.mem_cons_of_mem x hy), List.map_cons,
      List.sum_cons]

/-- A sum over some of the groups is a sum over their items. -/
theorem sum_itemsOf_mem {M : Type*} [AddCommMonoid M] {key : α → κ} (g : α → M) {ks : List κ}
    (hnodup : ks.Nodup) {xs : List α} {p : α → Bool} (hp : ∀ x ∈ xs, p x ↔ key x ∈ ks) :
    (ks.map fun k => ((itemsOf key k xs).map g).sum).sum = ((xs.filter p).map g).sum := by
  have hgroup : ∀ k ∈ ks, itemsOf key k (xs.filter p) = itemsOf key k xs := by
    intro k hk
    rw [itemsOf, itemsOf, List.filter_filter]
    refine List.filter_congr fun x hx => ?_
    by_cases hkey : key x = k
    · rw [decide_eq_true hkey, (hp x hx).2 (hkey ▸ hk)]
      rfl
    · rw [decide_eq_false hkey]
      rfl
  rw [← sum_itemsOf g hnodup fun x hx =>
    (hp x (List.mem_filter.1 hx).1).1 (List.mem_filter.1 hx).2]
  exact congrArg List.sum (List.map_congr_left fun k hk => by rw [hgroup k hk])

end Js
