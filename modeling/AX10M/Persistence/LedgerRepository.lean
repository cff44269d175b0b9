/-
  The persisted ledger (`@ax10m/persistence`, `ledger-repo.ts`).

  Rows are inserted into a table whose primary key is the number of an entry, and are never changed
  or deleted.  What the database does with a row is a parameter `store`: it refuses the row, or
  keeps it, with the keys of its detail in an order of its own (`Stores`).
  `KeepsChain.append`: an append that is alone on the table does what the in-memory ledger does.
-/
import AX10M.Attribution.Chain
import AX10M.Logs.First

namespace AX10M

open Js

/-! ## The table -/

/-- A row of `ledger_entries`. -/
abbrev Row := ChainEntry

/-- What the database keeps of a row; a row that has no representation there is refused. -/
abbrev RowStore := Row → Option Row

/-- Rows come back as they were inserted, the detail with its keys in some order. -/
def Stores (store : RowStore) : Prop :=
  ∀ row r, JsonValued row.detail → store row = some r → SameEntry row r

/-- A row as an entry. -/
def toEntry (r : Row) : ChainEntry :=
  { r with
    detail :=
      match r.detail with
      | .null => .obj []
      | d => d }

namespace LedgerRepository

/-- All entries in chain order. -/
def all (table : List Row) : List ChainEntry :=
  (table.insertionSort fun r r' => r.seq ≤ r'.seq).map toEntry

/-- The row with the last number. -/
def last (table : List Row) : Option Row :=
  (table.insertionSort fun r r' => r'.seq ≤ r.seq).head?

/-- Current chain head hash. -/
def head (table : List Row) : String :=
  match last table with
  | some r => r.hash
  | none => genesisHash

/-- The entry that a transaction makes of an input, from the head that it reads. -/
def prepare (sha256 : Digest) (table : List Row) (input : LedgerAppendInput) : ChainEntry :=
  match last table with
  | some prev => linked sha256 (prev.seq + 1) prev.hash input
  | none => linked sha256 0 genesisHash input

/-- How an insert ends. -/
inductive Inserted where
  | stored (table : List Row)
  /-- the number is taken (`isSeqCollision`) -/
  | collision
  /-- any other error -/
  | refused

/-- Insert an entry. -/
def insert (store : RowStore) (table : List Row) (entry : ChainEntry) : Inserted :=
  match store entry with
  | none => .refused
  | some r => if ∃ r' ∈ table, r'.seq = entry.seq then .collision else .stored (table ++ [r])

/-- `MAX_APPEND_RETRIES`. -/
def maxAppendRetries : ℕ := 8

/-- The attempts of an append that is alone on the table: the entry if it returns, and the table. -/
def attempts (sha256 : Digest) (store : RowStore) :
    ℕ → List Row → LedgerAppendInput → Option ChainEntry × List Row
  | 0, table, _ => (none, table)
  | n + 1, table, input =>
    let entry := prepare sha256 table input
    match insert store table entry with
    | .stored table' => (some entry, table')
    | .collision => attempts sha256 store n table input
    | .refused => (none, table)

/-- Append an event: the entry if the append returns, and the table after it. -/
def append (sha256 : Digest) (store : RowStore) (table : List Row) (input : LedgerAppendInput) :
    Option ChainEntry × List Row :=
  attempts sha256 store maxAppendRetries table input

/-- The appends of a sequence that return, and the table after it. -/
def appendAll (sha256 : Digest) (store : RowStore) (inputs : List LedgerAppendInput) :
    List LedgerAppendInput × List Row :=
  inputs.foldl (fun (done, table) input =>
    match append sha256 store table input with
    | (some _, table') => (done ++ [input], table')
    | (none, table') => (done, table')) ([], [])

end LedgerRepository

/-! ## The table as a chain -/

/-- What has the properties of an object is one. -/
theorem exists_obj_of_sameJson {d : Record} {v : Json} (h : SameJson (.obj d) v) : ∃ d', v = .obj d' := by
  rw [SameJson, normal, normal, rebuild_obj] at h
  cases v with
  | obj d' => exact ⟨d', rfl⟩
  | null | bool b | num x | str s | arr xs =>
    rw [rebuild] at h
    cases h

theorem descending_total : Std.Total fun r r' : Row => r'.seq ≤ r.seq :=
  ⟨fun r r' => le_total r'.seq r.seq⟩

theorem descending_trans : IsTrans Row fun r r' => r'.seq ≤ r.seq :=
  ⟨fun _ _ _ h h' => le_trans h' h⟩

/-- Of rows with distinct numbers, the one with the last number ends the others in order. -/
theorem last_eq_getLast {table : List Row} (hnodup : (table.map fun r => r.seq).Nodup) :
    LedgerRepository.last table = (table.insertionSort fun r r' => r.seq ≤ r'.seq).getLast? := by
  have := descending_total
  have := descending_trans
  have htotal : Std.Total fun r r' : Row => r.seq ≤ r'.seq := ⟨fun r r' => le_total r.seq r'.seq⟩
  have htrans : IsTrans Row fun r r' => r.seq ≤ r'.seq := ⟨fun _ _ _ h h' => le_trans h h'⟩
  have hreverse : table.insertionSort (fun r r' => r'.seq ≤ r.seq) =
      (table.insertionSort fun r r' => r.seq ≤ r'.seq).reverse := by
    have hperm : (table.insertionSort fun r r' => r'.seq ≤ r.seq).Perm
        (table.insertionSort fun r r' => r.seq ≤ r'.seq).reverse :=
      ((List.perm_insertionSort _ _).trans (List.perm_insertionSort _ _).symm).trans
        (List.reverse_perm _).symm
    refine hperm.eq_of_pairwise (fun r r' hr hr' hle hge => ?_) (List.pairwise_insertionSort _ _)
      (List.pairwise_reverse.2 (List.pairwise_insertionSort _ _))
    exact List.inj_on_of_nodup_map hnodup ((List.mem_insertionSort _).1 hr)
      ((List.mem_insertionSort _).1 (List.mem_reverse.1 hr')) (le_antisymm hge hle)
  rw [LedgerRepository.last, hreverse, List.head?_reverse]

/-- The table holds the entries of a chain, in their order. -/
structure KeepsChain (sha256 : Digest) (entries : List ChainEntry) (table : List Row) : Prop where
  chained : (ledgerChain sha256).Chained entries
  rows : List.Forall₂ SameEntry entries table
  objects : ∀ r ∈ table, ∃ d, r.detail = .obj d

section

variable {sha256 : Digest} {store : RowStore} {entries : List ChainEntry} {table : List Row}

theorem keepsChain_nil : KeepsChain sha256 [] [] := ⟨trivial, .nil, by simp⟩

/-- A table of the very entries that the in-memory ledger appends. -/
theorem keepsChain_ofInputs (sha256 : Digest) (inputs : List LedgerAppendInput) :
    KeepsChain sha256 (HashChainedLedger.ofInputs sha256 inputs).entries
      (HashChainedLedger.ofInputs sha256 inputs).entries where
  chained := ofInputs_chained sha256 inputs
  rows := List.forall₂_same.2 fun e _ => .refl e
  objects := by
    intro e he
    have hdetail := List.mem_map_of_mem (f := fun e : ChainEntry => e.detail) he
    rw [ofInputs_details] at hdetail
    obtain ⟨input, -, hinput⟩ := List.mem_map.1 hdetail
    exact ⟨input.detail, hinput.symm⟩

/-- The table is a chain itself. -/
theorem KeepsChain.table_chained (h : KeepsChain sha256 entries table) :
    (ledgerChain sha256).Chained table ∧
      (ledgerChain sha256).head table = (ledgerChain sha256).head entries :=
  h.chained.congr (h.rows.imp fun _ _ he => he.alike sha256)

/-- The rows are in the order of their numbers. -/
theorem KeepsChain.pairwise (h : KeepsChain sha256 entries table) :
    table.Pairwise fun r r' => r.seq < r'.seq :=
  h.table_chained.1.pairwise

/-- The entries that are read are the rows. -/
theorem KeepsChain.all_eq (h : KeepsChain sha256 entries table) : LedgerRepository.all table = table := by
  have hsorted : table.insertionSort (fun r r' => r.seq ≤ r'.seq) = table :=
    (h.pairwise.imp fun hlt => hlt.le).insertionSort_eq
  have hentry : ∀ r ∈ table, toEntry r = r := by
    intro r hr
    obtain ⟨d, hd⟩ := h.objects r hr
    obtain ⟨⟨seq, merchantId, type, occurredAt, detail⟩, prevHash, hash⟩ := r
    simp only at hd
    rw [hd]
    rfl
  rw [LedgerRepository.all, hsorted]
  calc table.map toEntry = table.map id := List.map_congr_left hentry
    _ = table := List.map_id _

/-- The row with the last number is the last one. -/
theorem KeepsChain.last_eq (h : KeepsChain sha256 entries table) :
    LedgerRepository.last table = table.getLast? := by
  have hnodup : (table.map fun r => r.seq).Nodup :=
    List.pairwise_map.2 (h.pairwise.imp fun hlt => hlt.ne)
  rw [last_eq_getLast hnodup, (h.pairwise.imp fun hlt => hlt.le).insertionSort_eq]

/-- The entry that a transaction makes is the one that the in-memory ledger makes. -/
theorem KeepsChain.prepare_eq (h : KeepsChain sha256 entries table) (input : LedgerAppendInput) :
    LedgerRepository.prepare sha256 table input =
      linked sha256 entries.length ((ledgerChain sha256).head entries) input := by
  obtain ⟨hc, hhead⟩ := h.table_chained
  rw [← hhead, h.rows.length_eq, LedgerRepository.prepare, h.last_eq]
  rcases List.eq_nil_or_concat table with rfl | ⟨rows, r, rfl⟩
  · rfl
  · rw [List.concat_eq_append] at *
    have hseq := (Logs.ChainFormat.chained_concat.1 hc).2.seq
    have hseq' : r.seq + 1 = ((rows ++ [r]).length : ℤ) := by
      rw [List.length_append, List.length_singleton]
      exact_mod_cast congrArg (· + 1) hseq
    simp only [List.getLast?_concat, Logs.ChainFormat.head_concat, hseq']
    rfl

theorem KeepsChain.head_eq (h : KeepsChain sha256 entries table) :
    LedgerRepository.head table = (ledgerChain sha256).head entries := by
  obtain ⟨-, hhead⟩ := h.table_chained
  rw [← hhead, LedgerRepository.head, h.last_eq, Logs.ChainFormat.head, Logs.ChainFormat.headFrom]
  cases table.getLast? <;> rfl

/-- A next entry that is stored is in both. -/
theorem KeepsChain.concat (h : KeepsChain sha256 entries table) {e : ChainEntry} {r : Row} {d : Record}
    (he : (ledgerChain sha256).Links entries e) (hr : SameEntry e r) (hd : e.detail = .obj d) :
    KeepsChain sha256 (entries ++ [e]) (table ++ [r]) where
  chained := Logs.ChainFormat.chained_concat.2 ⟨h.chained, he⟩
  rows := List.rel_append h.rows (.cons hr .nil)
  objects := by
    intro r' hr'
    rcases List.mem_append.1 hr' with hr' | hr'
    · exact h.objects r' hr'
    · obtain rfl := List.mem_singleton.1 hr'
      have hdetail := hr.data.detail
      rw [hd] at hdetail
      exact exists_obj_of_sameJson hdetail

/-- What an insert of the next entry, or of one whose number is taken, does. -/
theorem KeepsChain.insert_cases (hstore : Stores store) (h : KeepsChain sha256 entries table)
    {e : ChainEntry} {d : Record} (hd : e.detail = .obj d) (hjson : JsonValued e.detail)
    (hbegins : ∃ seen, seen <+: entries ∧ (ledgerChain sha256).Links seen e) :
    (∃ r, LedgerRepository.insert store table e = .stored (table ++ [r]) ∧
        (ledgerChain sha256).Links entries e ∧ KeepsChain sha256 (entries ++ [e]) (table ++ [r])) ∨
      LedgerRepository.insert store table e = .collision ∨
      LedgerRepository.insert store table e = .refused := by
  unfold LedgerRepository.insert
  cases hr : store e with
  | none => exact .inr (.inr rfl)
  | some r =>
    simp only
    split_ifs with htaken
    · exact .inr (.inl rfl)
    · obtain ⟨seen, hseen, hlinks⟩ := hbegins
      have hfree : ∀ e' ∈ entries, (ledgerChain sha256).seq e' ≠ (ledgerChain sha256).seq e := by
        intro e' he' heq
        obtain ⟨r', hr', hsame⟩ := Logs.exists_related h.rows he'
        exact htaken ⟨r', hr', hsame.data.seq.symm.trans heq⟩
      have hall : entries = seen := hlinks.eq_of_prefix h.chained hseen hfree
      rw [← hall] at hlinks
      exact .inl ⟨r, rfl, hlinks, h.concat hlinks (hstore e r hjson hr) hd⟩

/-- The number of the next entry is free. -/
theorem KeepsChain.free (h : KeepsChain sha256 entries table) (input : LedgerAppendInput) :
    ¬ ∃ r ∈ table, r.seq = (LedgerRepository.prepare sha256 table input).seq := by
  rintro ⟨r, hr, hseq⟩
  have hmem : r.seq ∈ table.map fun r => r.seq := List.mem_map_of_mem hr
  have hseqs : (table.map fun r => r.seq) = (List.range table.length).map Nat.cast :=
    h.table_chained.1.seqs
  rw [hseqs, hseq, h.prepare_eq] at hmem
  obtain ⟨k, hk, hke⟩ := List.mem_map.1 hmem
  have hlt := List.mem_range.1 hk
  rw [← h.rows.length_eq] at hlt
  have : (k : ℤ) = entries.length := hke
  omega

/-- An append that is alone on the table does what the in-memory ledger does, where the database
    has a representation of the entry. -/
theorem KeepsChain.append (hstore : Stores store) {ledger : HashChainedLedger}
    (h : KeepsChain sha256 ledger.entries table) (input : LedgerAppendInput)
    (hjson : JsonValued (.obj input.detail)) :
    (∃ e table', LedgerRepository.append sha256 store table input = (some e, table') ∧
        KeepsChain sha256 (ledger.append sha256 input).entries table') ∨
      LedgerRepository.append sha256 store table input = (none, table) ∧
        store (LedgerRepository.prepare sha256 table input) = none := by
  have hentry : (ledger.append sha256 input).entries =
      ledger.entries ++ [LedgerRepository.prepare sha256 table input] := by
    rw [h.prepare_eq, HashChainedLedger.append, AX10M.head_eq sha256]
  have hlinks := linked_links sha256 ledger.entries input
  rw [← h.prepare_eq] at hlinks
  have hdetail : (LedgerRepository.prepare sha256 table input).detail = .obj input.detail := by
    rw [h.prepare_eq]
    rfl
  unfold LedgerRepository.append LedgerRepository.maxAppendRetries LedgerRepository.attempts
  simp only
  cases hr : store (LedgerRepository.prepare sha256 table input) with
  | none =>
    have hinsert : LedgerRepository.insert store table
        (LedgerRepository.prepare sha256 table input) = .refused := by
      rw [LedgerRepository.insert, hr]
    rw [hinsert]
    exact .inr ⟨rfl, rfl⟩
  | some r =>
    have hinsert : LedgerRepository.insert store table
        (LedgerRepository.prepare sha256 table input) = .stored (table ++ [r]) := by
      rw [LedgerRepository.insert, hr]
      exact if_neg (h.free input)
    rw [hinsert, hentry]
    exact .inl ⟨_, _, rfl, h.concat hlinks (hstore _ r (hdetail ▸ hjson) hr) hdetail⟩

/-- The table holds what the in-memory ledger holds of the appends that return, which are all where
    the database has a representation of their entries. -/
theorem appendAll_keepsChain (hstore : Stores store) (inputs : List LedgerAppendInput)
    (hjson : ∀ input ∈ inputs, JsonValued (.obj input.detail)) :
    KeepsChain sha256
        (HashChainedLedger.ofInputs sha256
          (LedgerRepository.appendAll sha256 store inputs).1).entries
        (LedgerRepository.appendAll sha256 store inputs).2 ∧
      (LedgerRepository.appendAll sha256 store inputs).1.Sublist inputs ∧
      ((∀ input ∈ inputs, ∀ n < inputs.length, ∀ prevHash,
          store (linked sha256 n prevHash input) ≠ none) →
        (LedgerRepository.appendAll sha256 store inputs).1 = inputs) := by
  induction inputs using List.reverseRecOn with
  | nil => exact ⟨keepsChain_nil, .slnil, fun _ => rfl⟩
  | append_singleton inputs input ih =>
    obtain ⟨hrest, hsub, hall⟩ := ih fun input' h => hjson input' (List.mem_append_left _ h)
    have hstep := hrest.append hstore input (hjson input (by simp))
    have hlen : (inputs ++ [input]).length = inputs.length + 1 := by simp
    -- an append before is stored where those of the longer sequence are
    have hbefore : (∀ input' ∈ inputs ++ [input], ∀ n < (inputs ++ [input]).length, ∀ prevHash,
        store (linked sha256 n prevHash input') ≠ none) →
        (LedgerRepository.appendAll sha256 store inputs).1 = inputs := fun h =>
      hall fun input' hmem n hn => h input' (List.mem_append_left _ hmem) n (by omega)
    rw [LedgerRepository.appendAll, List.foldl_append, List.foldl_cons, List.foldl_nil,
      ← LedgerRepository.appendAll]
    rcases hstep with ⟨e, table', happend, hagrees⟩ | ⟨happend, hrefused⟩
    · simp only [happend]
      refine ⟨?_, hsub.append (.refl _), fun h => by rw [hbefore h]⟩
      rw [HashChainedLedger.ofInputs, List.foldl_append]
      exact hagrees
    · simp only [happend]
      refine ⟨hrest, hsub.trans (List.sublist_append_left _ _), fun h => ?_⟩
      rw [hrest.prepare_eq, ofInputs_length, hbefore h] at hrefused
      exact absurd hrefused (h input (by simp) _ (by omega) _)

end

end AX10M
