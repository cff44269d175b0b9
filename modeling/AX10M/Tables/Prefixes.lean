/-
  Tables of prefixes.

  Entries are tried from the longest prefix on, those of one length in their order in the table.
  `lookup_eq_some_iff`: what is found is the first entry of the longest prefix that matches;
  `lookup_perm`: so where no two entries have one prefix, the order of the table does not matter.
-/
import Mathlib.Data.List.Nodup
import Mathlib.Data.List.Infix
import Mathlib.Data.Nat.Notation

namespace Prefixes

variable {α β : Type*}

/-- The order in which entries are tried. -/
def before (a b : List α × β) : Bool := b.1.length ≤ a.1.length

theorem before_trans (a b c : List α × β) (hab : before a b = true) (hbc : before b c = true) :
    before a c = true := by
  simp only [before, decide_eq_true_eq] at hab hbc ⊢
  omega

theorem before_total (a b : List α × β) : (before a b || before b a) = true := by
  simp only [before, Bool.or_eq_true, decide_eq_true_eq]
  omega

variable [DecidableEq α]

/-- The first entry that matches, from the longest prefix on. -/
def lookup (table : List (List α × β)) (key : List α) : Option (List α × β) :=
  (table.mergeSort before).find? fun e => e.1.isPrefixOf key

variable {table table' : List (List α × β)} {key : List α} {e : List α × β}

/-- Sorting keeps the order of the entries of one prefix. -/
theorem filter_mergeSort (table : List (List α × β)) (p : List α) :
    (table.mergeSort before).filter (fun e => e.1 = p) = table.filter fun e => e.1 = p := by
  have hsorted : (table.filter fun e => e.1 = p).Pairwise fun a b => before a b = true := by
    refine List.Pairwise.imp_of_mem (R := fun _ _ => True) ?_ (List.pairwise_of_forall fun _ _ => trivial)
    intro a b ha hb _
    have ha : a.1 = p := by simpa using (List.mem_filter.1 ha).2
    have hb : b.1 = p := by simpa using (List.mem_filter.1 hb).2
    simp [before, ha, hb]
  have hsub := List.sublist_mergeSort before_trans before_total hsorted List.filter_sublist
  have hfilter := hsub.filter fun e => e.1 = p
  rw [List.filter_filter] at hfilter
  simp only [Bool.and_self] at hfilter
  refine (hfilter.eq_of_length ?_).symm
  exact ((List.mergeSort_perm table before).symm.filter _).length_eq

theorem find?_mergeSort (table : List (List α × β)) (p : List α) :
    (table.mergeSort before).find? (fun e => e.1 = p) = table.find? fun e => e.1 = p := by
  rw [← List.head?_filter, ← List.head?_filter, filter_mergeSort]

/-- What is found is the first entry of the longest prefix that matches. -/
theorem lookup_eq_some_iff : lookup table key = some e ↔
    e.1 <+: key ∧ (∀ e' ∈ table, e'.1 <+: key → e'.1.length ≤ e.1.length) ∧
      table.find? (fun e' => e'.1 = e.1) = some e := by
  have hfound {e : List α × β} (h : lookup table key = some e) : e.1 <+: key ∧
      (∀ e' ∈ table, e'.1 <+: key → e'.1.length ≤ e.1.length) ∧
        table.find? (fun e' => e'.1 = e.1) = some e := by
    obtain ⟨hmatch, as, bs, hsplit, has⟩ := List.find?_eq_some_iff_append.1 h
    have hstart : e.1 <+: key := List.isPrefixOf_iff_prefix.1 hmatch
    have hnot : ∀ a ∈ as, ¬ a.1 <+: key := by
      intro a ha hp
      have := has a ha
      rw [List.isPrefixOf_iff_prefix.2 hp] at this
      cases this
    refine ⟨hstart, ?_, ?_⟩
    · intro e' he' hp
      have hmem : e' ∈ as ++ e :: bs := by
        rw [← hsplit]
        exact List.mem_mergeSort.2 he'
      have hpairwise := List.pairwise_mergeSort before_trans before_total table
      rw [hsplit] at hpairwise
      rcases List.mem_append.1 hmem with ha | hb
      · exact absurd hp (hnot e' ha)
      · rcases List.mem_cons.1 hb with rfl | hb
        · exact le_rfl
        · have hbefore := (List.pairwise_cons.1 (List.pairwise_append.1 hpairwise).2.1).1 e' hb
          simpa [before] using hbefore
    · rw [← find?_mergeSort, hsplit, List.find?_append, List.find?_eq_none.2, Option.none_or]
      · simp
      · intro a ha heq
        exact hnot a ha ((of_decide_eq_true heq) ▸ hstart)
  refine ⟨hfound, ?_⟩
  rintro ⟨hstart, hlongest, hfirst⟩
  have hmem := List.mem_of_find?_eq_some hfirst
  cases hlookup : lookup table key with
  | none =>
    have := List.find?_eq_none.1 hlookup e (List.mem_mergeSort.2 hmem)
    exact absurd (List.isPrefixOf_iff_prefix.2 hstart) this
  | some e' =>
    obtain ⟨hstart', hlongest', hfirst'⟩ := hfound hlookup
    have hlength : e'.1.length = e.1.length :=
      le_antisymm (hlongest e' (List.mem_of_find?_eq_some hfirst') hstart')
        (hlongest' e hmem hstart)
    have heq : e'.1 = e.1 := by
      rw [List.prefix_iff_eq_take.1 hstart', List.prefix_iff_eq_take.1 hstart, hlength]
    rw [heq] at hfirst'
    exact hfirst'.symm.trans hfirst

/-- Nothing is found if and only if nothing matches. -/
theorem lookup_eq_none_iff : lookup table key = none ↔ ∀ e ∈ table, ¬ e.1 <+: key := by
  simp [lookup, List.find?_eq_none, List.isPrefixOf_iff_prefix]

theorem find?_eq_some_iff_mem (h : (table.map Prod.fst).Nodup) :
    table.find? (fun e' => e'.1 = e.1) = some e ↔ e ∈ table := by
  constructor
  · exact List.mem_of_find?_eq_some
  · intro he
    cases hfind : table.find? fun e' => e'.1 = e.1 with
    | none => exact absurd (decide_eq_true rfl) (List.find?_eq_none.1 hfind e he)
    | some e' =>
      have heq : e'.1 = e.1 := by simpa using List.find?_some hfind
      rw [List.inj_on_of_nodup_map h (List.mem_of_find?_eq_some hfind) he heq]

/-- The order of a table without two entries of one prefix does not matter. -/
theorem lookup_perm (h : (table.map Prod.fst).Nodup) (hperm : table.Perm table') :
    lookup table = lookup table' := by
  have h' : (table'.map Prod.fst).Nodup := (hperm.map Prod.fst).nodup_iff.1 h
  funext key
  refine Option.ext fun e => ?_
  rw [lookup_eq_some_iff, lookup_eq_some_iff, find?_eq_some_iff_mem h, find?_eq_some_iff_mem h',
    hperm.mem_iff]
  simp only [hperm.mem_iff]

end Prefixes
