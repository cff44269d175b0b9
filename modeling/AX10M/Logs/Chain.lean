/-
  Hash chains.

  An entry has a number, the hash of the entry before it, and its own hash, which is to be the
  digest of its content and of that link.  `Chained` says that the numbers count from zero, that
  the links start at the genesis, and that the hashes are right.  `Chained.forall₂`: with digests
  that determine what they are taken of, the last hash determines the chain.
  `Links.eq_of_prefix`: an entry that was linked to a chain fits its extension only if nothing was
  added to it meanwhile.
-/
import Mathlib.Data.Int.Order.Basic
import Mathlib.Data.List.Forall2
import Mathlib.Data.List.Induction

namespace Logs

/-- How the entries of a chain are read. -/
structure ChainFormat (ε η : Type*) where
  seq : ε → ℤ
  prev : ε → η
  hash : ε → η
  /-- the hash that the content of an entry and its link give -/
  digest : ε → η
  genesis : η

namespace ChainFormat

variable {ε η : Type*} (C : ChainFormat ε η)

/-- The hash that entries end in, after one. -/
def headFrom (h : η) (l : List ε) : η := (l.getLast?.map C.hash).getD h

/-- The hash that a chain ends in. -/
def head (l : List ε) : η := C.headFrom C.genesis l

/-- The entries go on with a chain whose last number and hash are these. -/
def ChainedFrom : ℤ → η → List ε → Prop
  | _, _, [] => True
  | n, h, e :: l =>
    C.seq e = n ∧ C.prev e = h ∧ C.digest e = C.hash e ∧ ChainedFrom (n + 1) (C.hash e) l

/-- The entries are a chain. -/
def Chained (l : List ε) : Prop := C.ChainedFrom 0 C.genesis l

/-- The entry is the next one of a chain. -/
structure Links (l : List ε) (e : ε) : Prop where
  seq : C.seq e = l.length
  prev : C.prev e = C.head l
  hash : C.digest e = C.hash e

/-- The entries are read alike. -/
structure Alike (e e' : ε) : Prop where
  seq : C.seq e = C.seq e'
  prev : C.prev e = C.prev e'
  hash : C.hash e = C.hash e'
  digest : C.digest e = C.digest e'

variable {C}

@[simp] theorem headFrom_nil (h : η) : C.headFrom h [] = h := rfl

@[simp] theorem head_nil : C.head [] = C.genesis := rfl

theorem headFrom_cons (h : η) (e : ε) (l : List ε) :
    C.headFrom h (e :: l) = C.headFrom (C.hash e) l := by
  cases l with
  | nil => rfl
  | cons e' l => simp [headFrom, List.getLast?_cons]

@[simp] theorem head_concat (l : List ε) (e : ε) : C.head (l ++ [e]) = C.hash e := by
  simp [head, headFrom]

theorem chained_nil : C.Chained [] := trivial

theorem chainedFrom_append {n : ℤ} {h : η} {l m : List ε} :
    C.ChainedFrom n h (l ++ m) ↔
      C.ChainedFrom n h l ∧ C.ChainedFrom (n + l.length) (C.headFrom h l) m := by
  induction l generalizing n h with
  | nil => simp [ChainedFrom]
  | cons e l ih =>
    have hn : n + 1 + (l.length : ℤ) = n + (e :: l).length := by
      rw [List.length_cons]
      omega
    rw [List.cons_append, ChainedFrom, ChainedFrom, ih, headFrom_cons, hn]
    simp only [and_assoc]

/-- A chain grows by the next entry. -/
theorem chained_concat {l : List ε} {e : ε} : C.Chained (l ++ [e]) ↔ C.Chained l ∧ C.Links l e := by
  rw [Chained, chainedFrom_append, Chained]
  simp only [ChainedFrom, Int.zero_add, and_true]
  constructor
  · rintro ⟨hl, hseq, hprev, hhash⟩
    exact ⟨hl, hseq, hprev, hhash⟩
  · rintro ⟨hl, hseq, hprev, hhash⟩
    exact ⟨hl, hseq, hprev, hhash⟩

theorem Chained.of_append {l m : List ε} (h : C.Chained (l ++ m)) : C.Chained l :=
  (chainedFrom_append.1 h).1

/-- The numbers of a chain count from zero. -/
theorem Chained.seqs {l : List ε} (h : C.Chained l) :
    l.map C.seq = (List.range l.length).map Nat.cast := by
  induction l using List.reverseRecOn with
  | nil => rfl
  | append_singleton l e ih =>
    obtain ⟨hl, he⟩ := chained_concat.1 h
    simp [List.range_succ, ih hl, he.seq]

theorem Chained.pairwise {l : List ε} (h : C.Chained l) :
    l.Pairwise fun e e' => C.seq e < C.seq e' := by
  induction l using List.reverseRecOn with
  | nil => exact .nil
  | append_singleton l e ih =>
    obtain ⟨hl, he⟩ := chained_concat.1 h
    refine List.pairwise_append.2 ⟨ih hl, List.pairwise_singleton _ _, fun e' he' e'' he'' => ?_⟩
    obtain rfl := List.mem_singleton.1 he''
    have hmem : C.seq e' ∈ l.map C.seq := List.mem_map_of_mem he'
    rw [hl.seqs] at hmem
    obtain ⟨k, hk, hke⟩ := List.mem_map.1 hmem
    rw [he.seq, ← hke]
    exact_mod_cast List.mem_range.1 hk

/-- A link is the genesis or the digest of an entry of the chain. -/
theorem Chained.prev_cases {l : List ε} (h : C.Chained l) {e : ε} (he : e ∈ l) :
    C.prev e = C.genesis ∨ ∃ e' ∈ l, C.prev e = C.digest e' := by
  induction l using List.reverseRecOn with
  | nil => cases he
  | append_singleton l e₁ ih =>
    obtain ⟨hl, he₁⟩ := chained_concat.1 h
    rcases List.mem_append.1 he with he | he
    · rcases ih hl he with hg | ⟨e', he', hp⟩
      · exact .inl hg
      · exact .inr ⟨e', List.mem_append_left _ he', hp⟩
    · obtain rfl := List.mem_singleton.1 he
      rcases List.eq_nil_or_concat l with rfl | ⟨l', e', rfl⟩
      · exact .inl he₁.prev
      · refine .inr ⟨e', by simp, ?_⟩
        rw [he₁.prev, List.concat_eq_append, head_concat]
        rw [List.concat_eq_append] at hl
        exact (chained_concat.1 hl).2.hash.symm

/-! ## What a chain's head says -/

theorem ChainedFrom.congr {l l' : List ε} (hl : List.Forall₂ C.Alike l l') {n : ℤ} {h : η}
    (hc : C.ChainedFrom n h l) : C.ChainedFrom n h l' ∧ C.headFrom h l' = C.headFrom h l := by
  induction hl generalizing n h with
  | nil => exact ⟨trivial, rfl⟩
  | @cons e e' l l' he _ ih =>
    obtain ⟨hseq, hprev, hhash, hrest⟩ := hc
    obtain ⟨hc', hhead⟩ := ih hrest
    refine ⟨⟨he.seq ▸ hseq, he.prev ▸ hprev, ?_, he.hash ▸ hc'⟩, ?_⟩
    · rw [← he.digest, hhash, he.hash]
    · rw [headFrom_cons, headFrom_cons, ← he.hash, hhead]

/-- Entries that are read alike are chains alike. -/
theorem Chained.congr {l l' : List ε} (h : C.Chained l) (hl : List.Forall₂ C.Alike l l') :
    C.Chained l' ∧ C.head l' = C.head l :=
  ChainedFrom.congr hl h

/-- Chains that end in one hash agree entry by entry, where digests determine what they are taken
    of; one that is empty ends in the genesis. -/
theorem Chained.forall₂ {R : ε → ε → Prop} {l l' : List ε} (h : C.Chained l) (h' : C.Chained l')
    (hinj : ∀ e ∈ l, ∀ e' ∈ l', C.digest e = C.digest e' →
      C.seq e = C.seq e' ∧ C.prev e = C.prev e' ∧ R e e')
    (hne : l = [] ↔ l' = []) (hhead : C.head l = C.head l') :
    List.Forall₂ (fun e e' => C.hash e = C.hash e' ∧ R e e') l l' := by
  induction l using List.reverseRecOn generalizing l' with
  | nil =>
    rw [hne.1 rfl]
    exact .nil
  | append_singleton l e ih =>
    rcases List.eq_nil_or_concat l' with rfl | ⟨l', e', rfl⟩
    · exact absurd (hne.2 rfl) (by simp)
    rw [List.concat_eq_append] at *
    obtain ⟨hc, he⟩ := chained_concat.1 h
    obtain ⟨hc', he'⟩ := chained_concat.1 h'
    rw [head_concat, head_concat] at hhead
    obtain ⟨hseq, hprev, hR⟩ := hinj e (by simp) e' (by simp) (by rw [he.hash, he'.hash, hhead])
    have hlen : l.length = l'.length := by
      rw [he.seq, he'.seq] at hseq
      exact_mod_cast hseq
    have hnil : l = [] ↔ l' = [] := by
      rw [← List.length_eq_zero_iff, ← List.length_eq_zero_iff, hlen]
    have hrest := ih hc hc'
      (fun a ha a' ha' => hinj a (List.mem_append_left _ ha) a' (List.mem_append_left _ ha')) hnil
      (by rw [← he.prev, ← he'.prev, hprev])
    exact List.rel_append hrest (.cons ⟨hhead, hR⟩ .nil)

/-! ## Appending to what was read -/

/-- An entry that was linked to a chain, and whose number is free in an extension of it, still is
    the next one: nothing was added. -/
theorem Links.eq_of_prefix {l l' : List ε} {e : ε} (he : C.Links l e) (h : C.Chained l')
    (hp : l <+: l') (hfree : ∀ e' ∈ l', C.seq e' ≠ C.seq e) : l' = l := by
  obtain ⟨more, rfl⟩ := hp
  cases more with
  | nil => exact List.append_nil l
  | cons e' more =>
    have hnext : C.Links l e' := by
      have : C.Chained ((l ++ [e']) ++ more) := by simpa using h
      exact (chained_concat.1 this.of_append).2
    exact absurd (hnext.seq.trans he.seq.symm) (hfree e' (by simp))

end ChainFormat

end Logs
