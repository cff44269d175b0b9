/-
  Reading the persisted ledger while others append (`@ax10m/persistence`, `ledger-repo.ts`).

  The table may hold anything, a ledger that was tampered with included.  `head_all`: of a ledger
  that verifies, the head is the hash of the last entry.  `head_ne_of_appended`: as soon as
  something was appended to it, the head is another.
-/
import AX10M.Attribution.Tamper
import AX10M.Persistence.LedgerRepository

namespace AX10M

open Js

namespace LedgerRepository

/-- The table after the appends of others. -/
def appendEach (sha256 : Digest) (store : RowStore) (table : List Row)
    (inputs : List LedgerAppendInput) : List Row :=
  inputs.foldl (fun table input => (append sha256 store table input).2) table

end LedgerRepository

variable {sha256 : Digest} {store : RowStore} {table : List Row}

/-- The last row is one of the table, and none has a greater number. -/
theorem last_spec {r : Row} (h : LedgerRepository.last table = some r) :
    r ∈ table ∧ ∀ r' ∈ table, r'.seq ≤ r.seq := by
  have := descending_total
  have := descending_trans
  have hsorted := List.pairwise_insertionSort (fun r r' : Row => r'.seq ≤ r.seq) table
  obtain ⟨rest, hrest⟩ := List.head?_eq_some_iff.1 h
  rw [hrest] at hsorted
  have hmem : ∀ r', r' ∈ table ↔ r' ∈ r :: rest := fun r' => by
    rw [← hrest, List.mem_insertionSort]
  refine ⟨(hmem r).2 List.mem_cons_self, fun r' hr' => ?_⟩
  rcases List.mem_cons.1 ((hmem r').1 hr') with rfl | hr'
  · exact le_refl _
  · exact (List.pairwise_cons.1 hsorted).1 r' hr'

theorem last_eq_none : LedgerRepository.last table = none ↔ table = [] := by
  rw [LedgerRepository.last, List.head?_eq_none_iff, ← List.length_eq_zero_iff,
    List.length_insertionSort, List.length_eq_zero_iff]

/-- A row whose number is greater than all others is the last. -/
theorem last_concat {r : Row} (h : ∀ r' ∈ table, r'.seq < r.seq) :
    LedgerRepository.last (table ++ [r]) = some r := by
  cases hlast : LedgerRepository.last (table ++ [r]) with
  | none => exact absurd (last_eq_none.1 hlast) (by simp)
  | some x =>
    obtain ⟨hmem, hmax⟩ := last_spec hlast
    rcases List.mem_append.1 hmem with hx | hx
    · exact absurd (hmax r (by simp)) (not_le.2 (h x hx))
    · rw [List.mem_singleton.1 hx]

/-- What an append does to any table: nothing, or the entry made of the last row is stored. -/
theorem append_cases (sha256 : Digest) (store : RowStore) (table : List Row)
    (input : LedgerAppendInput) :
    (LedgerRepository.append sha256 store table input).2 = table ∨
      ∃ r, store (LedgerRepository.prepare sha256 table input) = some r ∧
        (LedgerRepository.append sha256 store table input).2 = table ++ [r] := by
  have hattempts : ∀ n, (LedgerRepository.attempts sha256 store n table input).2 = table ∨
      ∃ r, store (LedgerRepository.prepare sha256 table input) = some r ∧
        (LedgerRepository.attempts sha256 store n table input).2 = table ++ [r] := by
    intro n
    induction n with
    | zero => exact .inl rfl
    | succ n ih =>
      unfold LedgerRepository.attempts LedgerRepository.insert
      cases hr : store (LedgerRepository.prepare sha256 table input) with
      | none =>
        simp only [hr]
        exact .inl trivial
      | some r =>
        simp only [hr] at ih ⊢
        split_ifs
        · exact ih
        · exact .inr ⟨r, rfl, rfl⟩
  exact hattempts _

/-! ## The head of a ledger that verifies -/

/-- The last row of a ledger that verifies is its last entry. -/
theorem last_of_chained (h : (ledgerChain sha256).Chained (LedgerRepository.all table)) :
    (LedgerRepository.last table).map toEntry = (LedgerRepository.all table).getLast? := by
  have hsorted : (table.insertionSort fun r r' => r.seq ≤ r'.seq).Pairwise
      fun r r' => r.seq < r'.seq := by
    have hpairwise := h.pairwise
    rw [LedgerRepository.all, List.pairwise_map] at hpairwise
    exact hpairwise
  have hnodup : (table.map fun r => r.seq).Nodup := by
    refine ((List.perm_insertionSort (fun r r' : Row => r.seq ≤ r'.seq) table).map _).nodup_iff.1 ?_
    exact List.pairwise_map.2 (hsorted.imp fun hlt => hlt.ne)
  rw [last_eq_getLast hnodup, LedgerRepository.all, List.getLast?_map]

/-- The head of a ledger that verifies is the hash of its last entry. -/
theorem head_all (h : (ledgerChain sha256).Chained (LedgerRepository.all table)) :
    LedgerRepository.head table = (HashChainedLedger.mk (LedgerRepository.all table)).head := by
  rw [LedgerRepository.head, HashChainedLedger.head]
  simp only
  rw [← last_of_chained h]
  cases LedgerRepository.last table <;> rfl

/-- The last row has this number, and its hash is of data with that number. -/
def HeadAt (sha256 : Digest) (table : List Row) (n : ℤ) : Prop :=
  ∃ r d p, LedgerRepository.last table = some r ∧ r.seq = n ∧ d.seq = n ∧
    r.hash = hashEntry sha256 d p ∧ AllDecimal d.detail ∧ '{' ∉ p.toList

theorem headAt_of_chained (hhex : Hexadecimal sha256)
    (h : (ledgerChain sha256).Chained (LedgerRepository.all table)) {entries : List ChainEntry}
    {e : ChainEntry} (hall : LedgerRepository.all table = entries ++ [e])
    (hjson : AllDecimal e.detail) : HeadAt sha256 table entries.length := by
  have hlast := last_of_chained h
  rw [hall] at hlast h
  obtain ⟨r, hr, hre⟩ := Option.map_eq_some_iff.1 (hlast.trans List.getLast?_concat)
  have hlinks := (Logs.ChainFormat.chained_concat.1 h).2
  have hseq : e.seq = entries.length := hlinks.seq
  have hhash : hashEntry sha256 e.toLedgerEntryData e.prevHash = e.hash := hlinks.hash
  refine ⟨r, e.toLedgerEntryData, e.prevHash, hr, ?_, hseq, ?_, hjson,
    brace_notMem_prevHash hhex h (by simp)⟩
  · rw [← hseq, ← hre]
    rfl
  · rw [hhash, ← hre]
    rfl

/-- An append that is stored moves the head on. -/
theorem HeadAt.append (hhex : Hexadecimal sha256) (hstore : Stores store) {n : ℤ}
    (h : HeadAt sha256 table n) (input : LedgerAppendInput)
    (hjson : JsonValued (.obj input.detail)) :
    (LedgerRepository.append sha256 store table input).2 = table ∨
      HeadAt sha256 (LedgerRepository.append sha256 store table input).2 (n + 1) := by
  obtain ⟨last, d, p, hlast, hn, -, hhash, -, -⟩ := h
  have hprepare : LedgerRepository.prepare sha256 table input =
      linked sha256 (n + 1) last.hash input := by
    rw [LedgerRepository.prepare, hlast, ← hn]
  rcases append_cases sha256 store table input with hsame | ⟨r, hr, hstored⟩
  · exact .inl hsame
  · have hsame := hstore _ r (by rw [hprepare]; exact hjson) hr
    rw [hprepare] at hsame
    have hseq : r.seq = n + 1 := hsame.data.seq.symm
    have hrhash : r.hash = hashEntry sha256
        (linked sha256 (n + 1) last.hash input).toLedgerEntryData last.hash := hsame.hash.symm
    rw [hstored]
    refine .inr ⟨r, _, last.hash, last_concat fun r' hr' => ?_, hseq, rfl, hrhash,
      hjson.decimal, ?_⟩
    · have := (last_spec hlast).2 r' hr'
      omega
    · rw [hhash]
      intro hmem
      exact absurd (hhex _ _ hmem) (by decide)

/-- After appends the head is where it was, and the table is, or it has moved on. -/
theorem HeadAt.appendEach (hhex : Hexadecimal sha256) (hstore : Stores store) {n : ℤ}
    (h : HeadAt sha256 table n) (inputs : List LedgerAppendInput)
    (hjson : ∀ input ∈ inputs, JsonValued (.obj input.detail)) :
    LedgerRepository.appendEach sha256 store table inputs = table ∨
      ∃ n' > n, HeadAt sha256 (LedgerRepository.appendEach sha256 store table inputs) n' := by
  induction inputs generalizing table n with
  | nil => exact .inl rfl
  | cons input inputs ih =>
    have hrest := fun input' hmem => hjson input' (List.mem_cons_of_mem _ hmem)
    rw [LedgerRepository.appendEach, List.foldl_cons, ← LedgerRepository.appendEach]
    rcases h.append hhex hstore input (hjson input List.mem_cons_self) with hsame | hnext
    · rw [hsame]
      exact ih h hrest
    · rcases ih hnext hrest with hsame | ⟨n', hn', hat⟩
      · rw [hsame]
        exact .inr ⟨n + 1, by omega, hnext⟩
      · exact .inr ⟨n', by omega, hat⟩

/-- As soon as something was appended to a ledger that verifies, its head is another. -/
theorem head_ne_of_appended (hinj : Function.Injective sha256) (hhex : Hexadecimal sha256)
    (hstore : Stores store) (h : (ledgerChain sha256).Chained (LedgerRepository.all table))
    (hne : LedgerRepository.all table ≠ [])
    (hdecimal : ∀ e ∈ LedgerRepository.all table, AllDecimal e.detail)
    {inputs : List LedgerAppendInput}
    (hjson : ∀ input ∈ inputs, JsonValued (.obj input.detail))
    (hhead : LedgerRepository.head (LedgerRepository.appendEach sha256 store table inputs) =
      (HashChainedLedger.mk (LedgerRepository.all table)).head) :
    LedgerRepository.appendEach sha256 store table inputs = table := by
  rcases List.eq_nil_or_concat (LedgerRepository.all table) with hnil | ⟨entries, e, hall⟩
  · exact absurd hnil hne
  · rw [List.concat_eq_append] at hall
    have hat := headAt_of_chained hhex h hall (hdecimal e (by rw [hall]; simp))
    rcases hat.appendEach hhex hstore inputs hjson with hsame | ⟨n', hn', hat'⟩
    · exact hsame
    · obtain ⟨r, d, p, hlast, -, hd, hhash, hdec, hp⟩ := hat
      obtain ⟨r', d', p', hlast', -, hd', hhash', hdec', hp'⟩ := hat'
      rw [← head_all h, LedgerRepository.head, LedgerRepository.head, hlast, hlast'] at hhead
      simp only at hhead
      rw [hhash, hhash'] at hhead
      have hseq := (hashEntry_injective hinj hdec' hdec hp' hp hhead).2.1
      rw [hd, hd'] at hseq
      omega

end AX10M
