/-
  Writers that share the persisted ledger (`recovery/ledger-port.ts`).

  A process queues its appends and runs one at a time; an append reads the head, then inserts its
  entry, and starts again when the number was taken meanwhile.  Any number of writers take these
  steps in any order; the lock that a transaction takes is not needed for what is shown, and is left
  out.  `Recorded` is what holds after every step: the table is the chain of the entries that were
  inserted, each by one append, and the appends that returned are among them.
-/
import AX10M.Persistence.LedgerRepository
import Mathlib.Data.Char
import Mathlib.Data.List.Lex
import Mathlib.Logic.Function.Basic

namespace AX10M

open Js

/-- An append that is not over. -/
structure Pending where
  /-- its number among the appends of all writers -/
  ticket : ℕ
  input : LedgerAppendInput

/-- The appends of a writer (`PersistedLedgerPort`); the first of the queue is under way. -/
structure LedgerPort where
  queue : List Pending := []
  /-- attempts that lost -/
  attempt : ℕ := 0
  /-- the entry of the transaction, once it has read the head -/
  prepared : Option ChainEntry := none

/-- The append under way is over. -/
def LedgerPort.done (port : LedgerPort) : LedgerPort := { queue := port.queue.tail }

/-- The table, its writers, and what happened. -/
structure SharedLedger (ι : Type) where
  table : List Row := []
  ports : ι → LedgerPort := fun _ => {}
  /-- what was to be appended and by whom, by ticket -/
  submitted : List (ι × LedgerAppendInput) := []
  /-- the appends whose entries were inserted, in this order -/
  committed : List (ℕ × ChainEntry) := []
  /-- the appends that returned, in this order -/
  returned : List (ℕ × ChainEntry) := []

inductive WriterStep (ι : Type) where
  | submit (w : ι) (input : LedgerAppendInput)
  | readHead (w : ι)
  /-- the insert, and whether its writer learns of it -/
  | insert (w : ι) (replied : Bool)
  /-- the append under way throws -/
  | fail (w : ι)

namespace SharedLedger

variable {ι : Type} [DecidableEq ι]

/-- The state with another port of a writer. -/
def setPort (s : SharedLedger ι) (w : ι) (port : LedgerPort) : SharedLedger ι :=
  { s with ports := Function.update s.ports w port }

/-- A step of a writer; one that cannot be taken changes nothing. -/
def step (sha256 : Digest) (store : RowStore) (s : SharedLedger ι) : WriterStep ι → SharedLedger ι
  | .submit w input =>
    let port := s.ports w
    let pending : Pending := ⟨s.submitted.length, input⟩
    setPort { s with submitted := s.submitted ++ [(w, input)] } w
      { port with queue := port.queue ++ [pending] }
  | .readHead w =>
    let port := s.ports w
    match port.queue, port.prepared with
    | p :: _, none =>
      s.setPort w { port with prepared := some (LedgerRepository.prepare sha256 s.table p.input) }
    | _, _ => s
  | .insert w replied =>
    let port := s.ports w
    match port.queue, port.prepared with
    | p :: _, some entry =>
      match LedgerRepository.insert store s.table entry with
      | .stored table =>
        setPort
          { s with
            table
            committed := s.committed ++ [(p.ticket, entry)]
            returned := s.returned ++ if replied then [(p.ticket, entry)] else [] }
          w port.done
      | .collision =>
        if port.attempt + 1 < LedgerRepository.maxAppendRetries then
          s.setPort w { port with attempt := port.attempt + 1, prepared := none }
        else s.setPort w port.done
      | .refused => s.setPort w port.done
    | _, _ => s
  | .fail w => s.setPort w (s.ports w).done

/-- The state after steps, from an empty ledger. -/
def run (sha256 : Digest) (store : RowStore) (steps : List (WriterStep ι)) : SharedLedger ι :=
  steps.foldl (step sha256 store) {}

/-! ## What holds after every step -/

omit [DecidableEq ι]

/-- The entry is the input's, at some place of some chain. -/
def EntryOf (sha256 : Digest) (input : LedgerAppendInput) (e : ChainEntry) : Prop :=
  ∃ n prevHash, e = linked sha256 n prevHash input

/-- The table is the chain of the entries inserted, each by one append, and the appends that
    returned are among these. -/
structure Recorded (sha256 : Digest) (s : SharedLedger ι) : Prop where
  agrees : KeepsChain sha256 (s.committed.map Prod.snd) s.table
  once : (s.committed.map Prod.fst).Nodup
  made : ∀ c ∈ s.committed, ∃ w input, s.submitted[c.1]? = some (w, input) ∧
    EntryOf sha256 input c.2
  returned : s.returned.Sublist s.committed

/-- A writer's appends are its own and not in the chain, and the one under way is linked to a part
    of the chain. -/
structure Waiting (sha256 : Digest) (s : SharedLedger ι) (w : ι) (port : LedgerPort) : Prop where
  own : ∀ p ∈ port.queue, s.submitted[p.ticket]? = some (w, p.input)
  fresh : ∀ p ∈ port.queue, p.ticket ∉ s.committed.map Prod.fst
  distinct : (port.queue.map Pending.ticket).Nodup
  prepared : ∀ e ∈ port.prepared, ∃ p rest, port.queue = p :: rest ∧
    ∃ seen, seen <+: s.committed.map Prod.snd ∧
      e = linked sha256 seen.length ((ledgerChain sha256).head seen) p.input

/-- The invariant of the steps. -/
structure Sound (sha256 : Digest) (s : SharedLedger ι) : Prop extends Recorded sha256 s where
  json : ∀ p ∈ s.submitted, JsonValued (.obj p.2.detail)
  waiting : ∀ w, Waiting sha256 s w (s.ports w)

variable {sha256 : Digest} {store : RowStore} {s : SharedLedger ι}

theorem sound_init : Sound sha256 ({} : SharedLedger ι) where
  agrees := keepsChain_nil
  once := .nil
  made := by simp
  returned := .slnil
  json := by simp
  waiting _ := ⟨by simp, by simp, .nil, by simp⟩

/-- A writer whose append under way is over. -/
theorem Waiting.done {w : ι} {port : LedgerPort} (h : Waiting sha256 s w port) :
    Waiting sha256 s w port.done where
  own p hp := h.own p (List.mem_of_mem_tail hp)
  fresh p hp := h.fresh p (List.mem_of_mem_tail hp)
  distinct := ((List.tail_sublist _).map _).nodup h.distinct
  prepared := by simp [LedgerPort.done]

variable [DecidableEq ι]

/-- Only a writer's port changes. -/
theorem Sound.setPort (h : Sound sha256 s) {w : ι} {port : LedgerPort}
    (hport : Waiting sha256 s w port) : Sound sha256 (s.setPort w port) where
  toRecorded := ⟨h.agrees, h.once, h.made, h.returned⟩
  json := h.json
  waiting := by
    have hall : ∀ w', Waiting sha256 s w' (Function.update s.ports w port w') :=
      (Function.forall_update_iff s.ports fun w' => Waiting sha256 s w').2
        ⟨hport, fun w' _ => h.waiting w'⟩
    intro w'
    obtain ⟨own, fresh, distinct, prepared⟩ := hall w'
    exact ⟨own, fresh, distinct, prepared⟩

theorem Sound.submit (h : Sound sha256 s) (w : ι) (input : LedgerAppendInput)
    (hjson : JsonValued (.obj input.detail)) :
    Sound sha256 (s.step sha256 store (.submit w input)) := by
  -- what was submitted keeps its ticket
  have hkeep : ∀ {t : ℕ} {q : ι × LedgerAppendInput}, s.submitted[t]? = some q →
      (s.submitted ++ [(w, input)])[t]? = some q := by
    intro t q hq
    obtain ⟨ht, -⟩ := List.getElem?_eq_some_iff.1 hq
    rw [List.getElem?_append_left ht, hq]
  have hgrown : Sound sha256 { s with submitted := s.submitted ++ [(w, input)] } := by
    refine ⟨⟨h.agrees, h.once, fun c hc => ?_, h.returned⟩, fun p hp => ?_, fun w' => ?_⟩
    · obtain ⟨w', input', hin, hof⟩ := h.made c hc
      exact ⟨w', input', hkeep hin, hof⟩
    · rcases List.mem_append.1 hp with hp | hp
      · exact h.json p hp
      · obtain rfl := List.mem_singleton.1 hp
        exact hjson
    · obtain ⟨own, fresh, distinct, prepared⟩ := h.waiting w'
      exact ⟨fun p hp => hkeep (own p hp), fresh, distinct, prepared⟩
  refine hgrown.setPort ⟨fun p hp => ?_, fun p hp hmem => ?_, ?_, fun e he => ?_⟩
  · rcases List.mem_append.1 hp with hp | hp
    · exact (hgrown.waiting w).own p hp
    · obtain rfl := List.mem_singleton.1 hp
      simp
  · rcases List.mem_append.1 hp with hp | hp
    · exact (h.waiting w).fresh p hp hmem
    · obtain rfl := List.mem_singleton.1 hp
      obtain ⟨c, hc, hct⟩ := List.mem_map.1 hmem
      obtain ⟨w', input', hin, -⟩ := h.made c hc
      obtain ⟨ht, -⟩ := List.getElem?_eq_some_iff.1 hin
      simp only at hct
      omega
  · rw [List.map_append, List.map_singleton]
    refine List.nodup_append.2 ⟨(h.waiting w).distinct, List.nodup_singleton _, ?_⟩
    intro t ht t' ht' heq
    obtain ⟨p, hp, rfl⟩ := List.mem_map.1 ht
    obtain ⟨hlt, -⟩ := List.getElem?_eq_some_iff.1 ((h.waiting w).own p hp)
    rw [List.mem_singleton.1 ht'] at heq
    exact absurd heq hlt.ne
  · obtain ⟨p, rest, hqueue, hseen⟩ := (h.waiting w).prepared e he
    exact ⟨p, rest ++ _, by rw [hqueue, List.cons_append], hseen⟩

theorem Sound.readHead (h : Sound sha256 s) (w : ι) :
    Sound sha256 (s.step sha256 store (.readHead w)) := by
  unfold step
  simp only
  split
  · next p rest hqueue hnone =>
    obtain ⟨own, fresh, distinct, -⟩ := h.waiting w
    refine h.setPort ⟨own, fresh, distinct, fun e he => ?_⟩
    obtain rfl : LedgerRepository.prepare sha256 s.table p.input = e := Option.some.inj he
    exact ⟨p, rest, hqueue, _, List.prefix_refl _, h.agrees.prepare_eq p.input⟩
  · exact h

/-- An insert that succeeds adds the entry to the chain. -/
theorem Sound.stored (h : Sound sha256 s) {w : ι} {p : Pending} {rest : List Pending}
    (hqueue : (s.ports w).queue = p :: rest) {e : ChainEntry} {table : List Row}
    (hagrees : KeepsChain sha256 (s.committed.map Prod.snd ++ [e]) table)
    (hof : EntryOf sha256 p.input e) {returned : List (ℕ × ChainEntry)}
    (hreturned : returned.Sublist (s.committed ++ [(p.ticket, e)])) :
    Sound sha256
      (SharedLedger.setPort
        { s with
          table
          committed := s.committed ++ [(p.ticket, e)]
          returned }
        w (s.ports w).done) := by
  have hp : p ∈ (s.ports w).queue := by simp [hqueue]
  have hmap : (s.committed ++ [(p.ticket, e)]).map Prod.fst =
      s.committed.map Prod.fst ++ [p.ticket] := by
    simp
  refine ⟨⟨?_, ?_, fun c hc => ?_, hreturned⟩, h.json, ?_⟩
  · simpa [SharedLedger.setPort] using hagrees
  · show ((s.committed ++ [(p.ticket, e)]).map Prod.fst).Nodup
    rw [hmap]
    refine List.nodup_append.2 ⟨h.once, List.nodup_singleton _, fun t ht t' ht' heq => ?_⟩
    rw [List.mem_singleton.1 ht'] at heq
    exact (h.waiting w).fresh p hp (heq ▸ ht)
  · rcases List.mem_append.1 hc with hc | hc
    · exact h.made c hc
    · obtain rfl := List.mem_singleton.1 hc
      exact ⟨w, p.input, (h.waiting w).own p hp, hof⟩
  · -- the append that is now in the chain is in no queue
    have hother : ∀ w' port, Waiting sha256 s w' port → (∀ p' ∈ port.queue, p'.ticket ≠ p.ticket) →
        Waiting sha256
          { s with
            table
            committed := s.committed ++ [(p.ticket, e)]
            returned } w' port := by
      rintro w' port ⟨own, fresh, distinct, prepared⟩ hne
      refine ⟨own, fun p' hp' => ?_, distinct, fun e' he' => ?_⟩
      · rw [hmap, List.mem_append, List.mem_singleton]
        rintro (hmem | heq)
        · exact fresh p' hp' hmem
        · exact hne p' hp' heq
      · obtain ⟨p', rest', hq, seen, hseen, hlinked⟩ := prepared e' he'
        refine ⟨p', rest', hq, seen, ?_, hlinked⟩
        rw [List.map_append]
        exact hseen.trans (List.prefix_append _ _)
    have hall : ∀ w', Waiting sha256 _ w' (Function.update s.ports w (s.ports w).done w') :=
      (Function.forall_update_iff s.ports fun w' => Waiting sha256
          { s with
            table
            committed := s.committed ++ [(p.ticket, e)]
            returned } w').2
        ⟨hother w _ (h.waiting w).done fun p' hp' heq => ?_,
          fun w' hw' => hother w' _ (h.waiting w') fun p' hp' heq => ?_⟩
    · intro w'
      obtain ⟨own, fresh, distinct, prepared⟩ := hall w'
      exact ⟨own, fresh, distinct, prepared⟩
    · have hdistinct := (h.waiting w).distinct
      rw [hqueue, List.map_cons, List.nodup_cons] at hdistinct
      rw [LedgerPort.done, hqueue, List.tail_cons] at hp'
      exact hdistinct.1 (heq ▸ List.mem_map_of_mem hp')
    · have hown := (h.waiting w').own p' hp'
      rw [heq, (h.waiting w).own p hp, Option.some.injEq, Prod.mk.injEq] at hown
      exact hw' hown.1.symm

theorem Sound.insert (hstore : Stores store) (h : Sound sha256 s) (w : ι) (replied : Bool) :
    Sound sha256 (s.step sha256 store (.insert w replied)) := by
  have hdone : Sound sha256 (s.setPort w (s.ports w).done) := h.setPort (h.waiting w).done
  unfold step
  simp only
  split
  · next p rest entry hqueue hprepared =>
    obtain ⟨p', rest', hqueue', seen, hseen, hlinked⟩ := (h.waiting w).prepared entry hprepared
    obtain ⟨rfl, rfl⟩ := List.cons.inj (hqueue.symm.trans hqueue')
    have hp : p ∈ (s.ports w).queue := by simp [hqueue]
    have hjson : JsonValued (.obj p.input.detail) :=
      h.json (w, p.input) (List.mem_of_getElem? ((h.waiting w).own p hp))
    have hdetail : entry.detail = .obj p.input.detail := by
      rw [hlinked]
      rfl
    have hlinks := linked_links sha256 seen p.input
    rw [← hlinked] at hlinks
    rcases h.agrees.insert_cases hstore hdetail (hdetail ▸ hjson) ⟨seen, hseen, hlinks⟩ with
      ⟨r, hinsert, -, hagrees⟩ | hinsert | hinsert
    · rw [hinsert]
      refine h.stored hqueue hagrees ⟨_, _, hlinked⟩ ?_
      split_ifs
      · exact h.returned.append (.refl _)
      · rw [List.append_nil]
        exact h.returned.trans (List.sublist_append_left _ _)
    · rw [hinsert]
      simp only
      split_ifs
      · obtain ⟨own, fresh, distinct, -⟩ := h.waiting w
        exact h.setPort ⟨own, fresh, distinct, by simp⟩
      · exact hdone
    · rw [hinsert]
      exact hdone
  · exact h

/-- Every step keeps the invariant. -/
theorem Sound.step (hstore : Stores store) (h : Sound sha256 s) (a : WriterStep ι)
    (hjson : ∀ w input, a = .submit w input → JsonValued (.obj input.detail)) :
    Sound sha256 (s.step sha256 store a) := by
  cases a with
  | submit w input => exact h.submit w input (hjson w input rfl)
  | readHead w => exact h.readHead w
  | insert w replied => exact h.insert hstore w replied
  | fail w => exact h.setPort (h.waiting w).done

theorem run_sound (hstore : Stores store) (steps : List (WriterStep ι))
    (hjson : ∀ w input, .submit w input ∈ steps → JsonValued (.obj input.detail)) :
    Sound sha256 (run sha256 store steps) := by
  induction steps using List.reverseRecOn with
  | nil => exact sound_init
  | append_singleton steps a ih =>
    rw [run, List.foldl_append]
    refine Sound.step hstore (ih fun w input hmem => hjson w input (by simp [hmem])) a ?_
    rintro w input rfl
    exact hjson w input (by simp)

end SharedLedger

/-- The chain survives every run, and both ledgers agree: what the in-memory ledger appends is a
    chain; the table holds the same entries for the same appends; and of any number of writers,
    each append that returned is in the chain, and none is there twice. -/
theorem chain_survives (sha256 : Digest) {store : RowStore} (hstore : Stores store) (ι : Type)
    [DecidableEq ι] :
    (∀ inputs,
      let ledger := HashChainedLedger.ofInputs sha256 inputs
      (verifyChain sha256 ledger.entries).valid ∧
        ledger.entries.map (fun e => e.seq) = (List.range inputs.length).map Nat.cast) ∧
    (∀ inputs, (∀ input ∈ inputs, JsonValued (.obj input.detail)) →
      let done := (LedgerRepository.appendAll sha256 store inputs).1
      let table := (LedgerRepository.appendAll sha256 store inputs).2
      let ledger := HashChainedLedger.ofInputs sha256 done
      List.Forall₂ SameEntry ledger.entries (LedgerRepository.all table) ∧
        LedgerRepository.head table = ledger.head ∧ done.Sublist inputs ∧
        ((∀ input ∈ inputs, ∀ n < inputs.length, ∀ prevHash,
          store (linked sha256 n prevHash input) ≠ none) → done = inputs)) ∧
    ∀ steps : List (WriterStep ι),
      (∀ w input, .submit w input ∈ steps → JsonValued (.obj input.detail)) →
      let s := SharedLedger.run sha256 store steps
      let chain := LedgerRepository.all s.table
      (verifyChain sha256 chain).valid ∧
        chain.map (fun e => e.seq) = (List.range chain.length).map Nat.cast ∧
        List.Forall₂ (fun c e => SameEntry c.2 e) s.committed chain ∧
        (s.committed.map Prod.fst).Nodup ∧
        (∀ c ∈ s.committed, ∃ w input, s.submitted[c.1]? = some (w, input) ∧
          SharedLedger.EntryOf sha256 input c.2) ∧
        s.returned.Sublist s.committed := by
  refine ⟨fun inputs => ?_, fun inputs hjson => ?_, fun steps hjson => ?_⟩
  · have hchain := ofInputs_chained sha256 inputs
    refine ⟨(verifyChain_valid sha256 _).2 hchain, ?_⟩
    have hseqs := hchain.seqs
    rw [ofInputs_length] at hseqs
    exact hseqs
  · obtain ⟨hagrees, hsub, hall⟩ := @appendAll_keepsChain sha256 store hstore inputs hjson
    refine ⟨?_, ?_, hsub, hall⟩
    · rw [hagrees.all_eq]
      exact hagrees.rows
    · rw [hagrees.head_eq, AX10M.head_eq sha256]
  · have hsound : SharedLedger.Sound sha256 (SharedLedger.run sha256 store steps) :=
      SharedLedger.run_sound hstore steps hjson
    have hagrees := hsound.agrees
    obtain ⟨hchain, -⟩ := hagrees.table_chained
    simp only [hagrees.all_eq]
    refine ⟨(verifyChain_valid sha256 _).2 hchain, hchain.seqs, ?_, hsound.once, hsound.made,
      hsound.returned⟩
    exact List.forall₂_map_left_iff.1 hagrees.rows

namespace Sample

/-- A table of `jsonb` details: it orders keys by their lengths, then by their bytes, and numbers
    have 32 bits. -/
def jsonbStore : RowStore := fun row =>
  if row.seq < 2 ^ 31 then
    some { row with
      detail := rebuild (fun fields => fields.insertionSort fun p q =>
        p.1.utf8ByteSize < q.1.utf8ByteSize ∨
          p.1.utf8ByteSize = q.1.utf8ByteSize ∧ p.1.toList ≤ q.1.toList) row.detail }
  else none

theorem jsonbStore_stores : Stores jsonbStore := by
  intro row r hjson hr
  unfold jsonbStore at hr
  split_ifs at hr
  obtain rfl := Option.some.inj hr
  refine ⟨⟨rfl, rfl, rfl, rfl, ?_⟩, rfl, rfl⟩
  rw [SameJson, normal, normal, rebuild_rebuild (onKeys_insertionSort fun _ _ _ => Iff.rfl)]
  refine rebuild_congr (fun fields hd => ?_) _ hjson.distinct
  exact sortFields_congr (List.perm_insertionSort _ _).symm hd

/-- Two writers read one head; the one that loses the race starts again. -/
def race : List (WriterStep Bool) :=
  [.submit true ⟨"mrc_1", "holdout.assigned", "2026-08-01T00:00:00.000Z",
      [("invoiceId", .str "inv_1"), ("bucket", .str "treatment")]⟩,
    .submit false ⟨"mrc_1", "case.recovered", "2026-08-01T02:00:05.000Z",
      [("invoiceId", .str "inv_1"), ("amount", .num 4999)]⟩,
    .readHead true, .readHead false, .insert true true, .insert false true, .readHead false,
    .insert false true]

theorem race_survives :
    let s := SharedLedger.run id jsonbStore race
    s.returned.map Prod.fst = [0, 1] ∧
      (verifyChain id (LedgerRepository.all s.table)).valid ∧ s.returned.Sublist s.committed := by
  have hjson : ∀ w input, .submit w input ∈ race → JsonValued (.obj input.detail) := by
    intro w input hmem
    simp only [race, List.mem_cons, WriterStep.submit.injEq, reduceCtorEq, or_false,
      List.not_mem_nil] at hmem
    rcases hmem with ⟨-, rfl⟩ | ⟨-, rfl⟩
    · exact ⟨by simp [DistinctKeys, DistinctKeysFields], by simp [AllDecimal, AllDecimalFields]⟩
    · refine ⟨by simp [DistinctKeys, DistinctKeysFields], ?_⟩
      simp only [AllDecimal, AllDecimalFields, true_and, and_true]
      decide
  obtain ⟨hvalid, -, -, -, -, hreturned⟩ :=
    (chain_survives id jsonbStore_stores Bool).2.2 race hjson
  exact ⟨by decide +kernel, hvalid, hreturned⟩

end Sample

end AX10M
