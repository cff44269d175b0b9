/-
  The hash chain of the ledger (`@ax10m/attribution`, `ledger.ts`).

  An entry's hash is taken of the hash before it and of its canonical text, in which the keys of
  the detail are sorted.  `verifyChain_valid`: what `verifyChain` accepts is a chain in the sense
  of `Logs.ChainFormat`.  `canonicalize_congr`: the canonical text does not depend on the order of
  keys.  `canonicalize_injective`: it determines the entry up to `__proto__` properties, which
  `sortKeys` drops.
-/
import AX10M.Attribution.Holdout
import AX10M.Attribution.Ledger
import AX10M.Js.Keys
import AX10M.Logs.Chain

namespace AX10M

open Js

/-! ## Hashing -/

/-- The immutable payload of a ledger entry. -/
structure LedgerEntryData where
  /-- 0-based -/
  seq : ℤ
  merchantId : String
  type : String
  occurredAt : String
  detail : Json

/-- A committed ledger entry: its data, and the hashes that chain it. -/
structure ChainEntry extends LedgerEntryData where
  prevHash : String
  hash : String

/-- `GENESIS_HASH`. -/
def genesisHash : String := String.ofList (List.replicate 64 '0')

/-- The properties of an object to which properties are assigned one by one: assigning `__proto__`
    sets the object's prototype, and makes no property. -/
def assigned (fields : Record) : Record := ownOrder (fields.filter fun p => p.1 ≠ "__proto__")

/-- Every object rebuilt by assigning its properties in the order of their keys. -/
def sortKeys (value : Json) : Json :=
  rebuild (fun fields => assigned (fields.insertionSort KeyLe)) value

/-- The value that the canonical text is of. -/
def stable (data : LedgerEntryData) : Json :=
  .obj [("seq", .num data.seq), ("merchantId", .str data.merchantId), ("type", .str data.type),
    ("occurredAt", .str data.occurredAt), ("detail", sortKeys data.detail)]

/-- Canonical JSON text with sorted keys. -/
def canonicalize (data : LedgerEntryData) : String := String.ofList (stringify (stable data))

/-- The link hash of an entry, given the previous hash. -/
def hashEntry (sha256 : Digest) (data : LedgerEntryData) (prevHash : String) : String :=
  sha256 (prevHash ++ canonicalize data)

/-! ## The ledger -/

/-- What is appended; the number and the hashes are assigned by the ledger. -/
structure LedgerAppendInput where
  merchantId : String
  type : String
  occurredAt : String
  detail : Record

/-- The entry that an input makes after a number of entries and a last hash. -/
def linked (sha256 : Digest) (seq : ℤ) (prevHash : String) (input : LedgerAppendInput) :
    ChainEntry :=
  let data : LedgerEntryData :=
    { seq
      merchantId := input.merchantId
      type := input.type
      occurredAt := input.occurredAt
      detail := .obj input.detail }
  { data with
    prevHash
    hash := hashEntry sha256 data prevHash }

/-- The in-memory ledger. -/
structure HashChainedLedger where
  entries : List ChainEntry := []

namespace HashChainedLedger

/-- The current chain head hash. -/
def head (ledger : HashChainedLedger) : String :=
  match ledger.entries.getLast? with
  | some e => e.hash
  | none => genesisHash

/-- Append an event. -/
def append (sha256 : Digest) (ledger : HashChainedLedger) (input : LedgerAppendInput) :
    HashChainedLedger :=
  ⟨ledger.entries ++ [linked sha256 ledger.entries.length ledger.head input]⟩

/-- The ledger after a sequence of appends. -/
def ofInputs (sha256 : Digest) (inputs : List LedgerAppendInput) : HashChainedLedger :=
  inputs.foldl (append sha256) {}

end HashChainedLedger

structure ChainVerification where
  valid : Bool
  /-- the number of the first entry that failed -/
  brokenAt : Option ℕ := none
  reason : Option String := none
  deriving DecidableEq

/-- The verification of the entries from number `i` on. -/
def verifyFrom (sha256 : Digest) : ℕ → String → List ChainEntry → ChainVerification
  | _, _, [] => { valid := true }
  | i, prevHash, e :: entries =>
    if e.seq ≠ i then
      { valid := false
        brokenAt := some i
        reason := some ("seq mismatch: expected " ++ toString i ++ ", got " ++ toString e.seq) }
    else if e.prevHash ≠ prevHash then
      { valid := false
        brokenAt := some i
        reason := some "prevHash does not match prior entry hash" }
    else if hashEntry sha256 e.toLedgerEntryData e.prevHash ≠ e.hash then
      { valid := false
        brokenAt := some i
        reason := some "entry hash does not match content (tampered)" }
    else verifyFrom sha256 (i + 1) e.hash entries

/-- Verify chain integrity. -/
def verifyChain (sha256 : Digest) (entries : List ChainEntry) : ChainVerification :=
  verifyFrom sha256 0 genesisHash entries

/-- The ledger as a hash chain. -/
def ledgerChain (sha256 : Digest) : Logs.ChainFormat ChainEntry String where
  seq e := e.seq
  prev e := e.prevHash
  hash e := e.hash
  digest e := hashEntry sha256 e.toLedgerEntryData e.prevHash
  genesis := genesisHash

theorem verifyFrom_valid (sha256 : Digest) (i : ℕ) (prevHash : String) (entries : List ChainEntry) :
    (verifyFrom sha256 i prevHash entries).valid ↔
      (ledgerChain sha256).ChainedFrom i prevHash entries := by
  induction entries generalizing i prevHash with
  | nil => simp [verifyFrom, Logs.ChainFormat.ChainedFrom]
  | cons e entries ih =>
    have hi : (i : ℤ) + 1 = ((i + 1 : ℕ) : ℤ) := by omega
    rw [Logs.ChainFormat.ChainedFrom, hi]
    unfold verifyFrom
    split_ifs with hseq hprev hhash
    · simp [ledgerChain, hseq]
    · simp [ledgerChain, hprev]
    · simp [ledgerChain, hhash]
    · rw [not_not] at hseq hprev hhash
      constructor
      · intro h
        exact ⟨hseq, hprev, hhash, (ih _ _).1 h⟩
      · rintro ⟨-, -, -, h⟩
        exact (ih _ _).2 h

/-- What is accepted is a chain. -/
theorem verifyChain_valid (sha256 : Digest) (entries : List ChainEntry) :
    (verifyChain sha256 entries).valid ↔ (ledgerChain sha256).Chained entries :=
  verifyFrom_valid sha256 0 genesisHash entries

theorem head_eq (sha256 : Digest) (ledger : HashChainedLedger) :
    ledger.head = (ledgerChain sha256).head ledger.entries := by
  unfold HashChainedLedger.head Logs.ChainFormat.head Logs.ChainFormat.headFrom
  cases ledger.entries.getLast? <;> rfl

/-- The entry that an input makes is the next one of the chain. -/
theorem linked_links (sha256 : Digest) (entries : List ChainEntry) (input : LedgerAppendInput) :
    (ledgerChain sha256).Links entries
      (linked sha256 entries.length ((ledgerChain sha256).head entries) input) where
  seq := rfl
  prev := rfl
  hash := rfl

/-- Whatever is appended, the in-memory ledger is a chain. -/
theorem ofInputs_chained (sha256 : Digest) (inputs : List LedgerAppendInput) :
    (ledgerChain sha256).Chained (HashChainedLedger.ofInputs sha256 inputs).entries := by
  induction inputs using List.reverseRecOn with
  | nil => exact Logs.ChainFormat.chained_nil
  | append_singleton inputs input ih =>
    rw [HashChainedLedger.ofInputs, List.foldl_append]
    refine Logs.ChainFormat.chained_concat.2 ⟨ih, ?_⟩
    rw [head_eq sha256]
    exact linked_links sha256 _ input

theorem ofInputs_length (sha256 : Digest) (inputs : List LedgerAppendInput) :
    (HashChainedLedger.ofInputs sha256 inputs).entries.length = inputs.length := by
  induction inputs using List.reverseRecOn with
  | nil => rfl
  | append_singleton inputs input ih =>
    rw [HashChainedLedger.ofInputs, List.foldl_append, ← HashChainedLedger.ofInputs]
    simp [HashChainedLedger.append, ih]

/-- The details are those of the inputs. -/
theorem ofInputs_details (sha256 : Digest) (inputs : List LedgerAppendInput) :
    (HashChainedLedger.ofInputs sha256 inputs).entries.map (fun e => e.detail) =
      inputs.map fun input => .obj input.detail := by
  induction inputs using List.reverseRecOn with
  | nil => rfl
  | append_singleton inputs input ih =>
    rw [HashChainedLedger.ofInputs, List.foldl_append, ← HashChainedLedger.ofInputs]
    simp [HashChainedLedger.append, ih, linked]

/-! ## What the canonical text says -/

/-- A value without its `__proto__` properties. -/
def dropProto (v : Json) : Json :=
  rebuild (fun fields => fields.filter fun p => p.1 ≠ "__proto__") v

theorem sortKeys_eq (v : Json) : sortKeys v = dropProto (normal v) := by
  rw [dropProto, normal, rebuild_rebuild onKeys_sortFields, sortKeys]
  congr 1
  ext1 fields
  exact (filter_ownOrder _ _).symm

theorem normal_dropProto (v : Json) : normal (dropProto v) = dropProto (normal v) := by
  rw [dropProto, dropProto, normal, normal, rebuild_rebuild onKeys_sortFields,
    rebuild_rebuild (onKeys_filter fun k => decide (k ≠ "__proto__"))]
  congr 1
  ext1 fields
  exact (filter_sortFields _ _).symm

/-- Sorted keys are equal exactly for values that are equal up to the order of keys, their
    `__proto__` properties apart. -/
theorem sortKeys_eq_iff {v w : Json} :
    sortKeys v = sortKeys w ↔ SameJson (dropProto v) (dropProto w) := by
  rw [SameJson, normal_dropProto, normal_dropProto, sortKeys_eq, sortKeys_eq]

theorem sortKeys_congr {v w : Json} (h : SameJson v w) : sortKeys v = sortKeys w := by
  rw [sortKeys_eq, sortKeys_eq]
  exact congrArg dropProto h

/-- The hashed fields are equal, the details up to the order of keys. -/
structure SameData (d d' : LedgerEntryData) : Prop where
  seq : d.seq = d'.seq
  merchantId : d.merchantId = d'.merchantId
  type : d.type = d'.type
  occurredAt : d.occurredAt = d'.occurredAt
  detail : SameJson d.detail d'.detail

/-- The canonical text does not depend on the order of keys. -/
theorem canonicalize_congr {d d' : LedgerEntryData} (h : SameData d d') :
    canonicalize d = canonicalize d' := by
  rw [canonicalize, canonicalize, stable, stable, h.seq, h.merchantId, h.type, h.occurredAt,
    sortKeys_congr h.detail]

/-- The fields of the entries are equal, the details up to the order of keys. -/
structure SameEntry (e e' : ChainEntry) : Prop where
  data : SameData e.toLedgerEntryData e'.toLedgerEntryData
  prevHash : e.prevHash = e'.prevHash
  hash : e.hash = e'.hash

theorem SameEntry.refl (e : ChainEntry) : SameEntry e e := ⟨⟨rfl, rfl, rfl, rfl, rfl⟩, rfl, rfl⟩

theorem SameEntry.alike {e e' : ChainEntry} (h : SameEntry e e') (sha256 : Digest) :
    (ledgerChain sha256).Alike e e' where
  seq := h.data.seq
  prev := h.prevHash
  hash := h.hash
  digest := by
    show hashEntry _ _ _ = hashEntry _ _ _
    rw [hashEntry, hashEntry, canonicalize_congr h.data, h.prevHash]

theorem allDecimal_sortKeys {v : Json} (h : AllDecimal v) : AllDecimal (sortKeys v) := by
  refine allDecimal_rebuild (fun fields p hp => ?_) v h
  have hmem := (ownOrder_perm _).subset hp
  exact (List.mem_insertionSort _).1 (List.mem_filter.1 hmem).1

/-- The canonical text determines the data, `__proto__` properties apart. -/
theorem canonicalize_injective {d d' : LedgerEntryData} (hd : AllDecimal d.detail)
    (hd' : AllDecimal d'.detail) (h : canonicalize d = canonicalize d') :
    d.seq = d'.seq ∧ d.merchantId = d'.merchantId ∧ d.type = d'.type ∧
      d.occurredAt = d'.occurredAt ∧ SameJson (dropProto d.detail) (dropProto d'.detail) := by
  have hseq : ∀ n : ℤ, IsDecimal n := fun n => by simpa using isDecimal_div n 0
  have hstable : ∀ c : LedgerEntryData, AllDecimal c.detail → AllDecimal (stable c) := by
    intro c hc
    simp only [stable, AllDecimal, AllDecimalFields, hseq, allDecimal_sortKeys hc, and_self]
  have htext := String.ofList_inj.1 h
  have hvalue := stringify_injective (hstable d hd) (hstable d' hd') htext
  simp only [stable, Json.obj.injEq, List.cons.injEq, Prod.mk.injEq, Json.num.injEq,
    Json.str.injEq, Int.cast_inj, true_and, and_true] at hvalue
  obtain ⟨hs, hm, ht, ho, hdetail⟩ := hvalue
  exact ⟨hs, hm, ht, ho, sortKeys_eq_iff.1 hdetail⟩

end AX10M
