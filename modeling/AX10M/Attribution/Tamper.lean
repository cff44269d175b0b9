/-
  Tamper evidence of the ledger's chain (`@ax10m/attribution`, `ledger.ts`).

  Two ledgers that verify and end in one hash are to be equal entry by entry.  They are up to
  `__proto__` properties of the details, which the canonical text leaves out (`tamper_evident_iff`).
-/
import AX10M.Attribution.Chain

namespace AX10M

open Js

/-- Digests are hexadecimal. -/
def Hexadecimal (sha256 : Digest) : Prop :=
  ∀ s, ∀ c ∈ (sha256 s).toList,
    c ∈ ['0', '1', '2', '3', '4', '5', '6', '7', '8', '9', 'a', 'b', 'c', 'd', 'e', 'f']

/-- The values differ, and only in `__proto__` properties. -/
def DiffersInProto (v w : Json) : Prop := SameJson (dropProto v) (dropProto w) ∧ ¬ SameJson v w

/-- The canonical text starts with a brace. -/
theorem canonicalize_toList (data : LedgerEntryData) :
    ∃ rest, (canonicalize data).toList = '{' :: rest :=
  ⟨_, by rw [canonicalize, String.toList_ofList, stable, stringify]⟩

/-- Texts that are the same up to their first braces, and after them. -/
theorem append_brace_injective {p p' rest rest' : List Char} (hp : '{' ∉ p) (hp' : '{' ∉ p')
    (h : p ++ '{' :: rest = p' ++ '{' :: rest') : p = p' ∧ rest = rest' := by
  induction p generalizing p' with
  | nil =>
    cases p' with
    | nil => exact ⟨rfl, (List.cons.inj h).2⟩
    | cons c p' => exact absurd (List.cons.inj h).1 (fun hc => hp' (hc ▸ List.mem_cons_self))
  | cons c p ih =>
    cases p' with
    | nil => exact absurd (List.cons.inj h).1 (fun hc => hp (hc ▸ List.mem_cons_self))
    | cons c' p' =>
      obtain ⟨rfl, htail⟩ := List.cons.inj h
      obtain ⟨rfl, hrest⟩ := ih (List.not_mem_of_not_mem_cons hp)
        (List.not_mem_of_not_mem_cons hp') htail
      exact ⟨rfl, hrest⟩

/-- What is hashed determines the previous hash and the data, `__proto__` properties apart. -/
theorem hashEntry_injective {sha256 : Digest} (hinj : Function.Injective sha256)
    {d d' : LedgerEntryData} (hd : AllDecimal d.detail) (hd' : AllDecimal d'.detail)
    {prevHash prevHash' : String} (hp : '{' ∉ prevHash.toList) (hp' : '{' ∉ prevHash'.toList)
    (h : hashEntry sha256 d prevHash = hashEntry sha256 d' prevHash') :
    prevHash = prevHash' ∧ d.seq = d'.seq ∧ d.merchantId = d'.merchantId ∧ d.type = d'.type ∧
      d.occurredAt = d'.occurredAt ∧ SameJson (dropProto d.detail) (dropProto d'.detail) := by
  have htext := congrArg String.toList (hinj h)
  obtain ⟨rest, hrest⟩ := canonicalize_toList d
  obtain ⟨rest', hrest'⟩ := canonicalize_toList d'
  rw [String.toList_append, String.toList_append, hrest, hrest'] at htext
  obtain ⟨hprev, htail⟩ := append_brace_injective hp hp' htext
  refine ⟨String.toList_inj.1 hprev, canonicalize_injective hd hd' (String.toList_inj.1 ?_)⟩
  rw [hrest, hrest', htail]

theorem brace_notMem_genesisHash : '{' ∉ genesisHash.toList := by
  have hzeros : ∀ n, '{' ∉ List.replicate n '0' := by
    intro n hmem
    have hzero : '{' = '0' := List.eq_of_mem_replicate hmem
    exact absurd hzero (by decide)
  have hlist : genesisHash.toList = List.replicate 64 '0' := String.toList_ofList
  exact hlist ▸ hzeros 64

/-- The links of a chain are hexadecimal. -/
theorem brace_notMem_prevHash {sha256 : Digest} (hhex : Hexadecimal sha256)
    {entries : List ChainEntry} (h : (ledgerChain sha256).Chained entries) {e : ChainEntry}
    (he : e ∈ entries) : '{' ∉ e.prevHash.toList := by
  have hcases : e.prevHash = genesisHash ∨ ∃ e' ∈ entries,
      e.prevHash = hashEntry sha256 e'.toLedgerEntryData e'.prevHash := h.prev_cases he
  rcases hcases with hprev | ⟨e', -, hprev⟩
  · rw [hprev]
    exact brace_notMem_genesisHash
  · rw [hprev]
    intro hmem
    exact absurd (hhex _ _ hmem) (by decide)

/-- Ledgers that verify and end in one hash are equal entry by entry exactly if not only one is
    empty, and no two entries at one place differ only in `__proto__` properties of their
    details. -/
theorem tamper_evident_iff {sha256 : Digest} (hinj : Function.Injective sha256)
    (hhex : Hexadecimal sha256) {entries entries' : List ChainEntry}
    (hvalid : (verifyChain sha256 entries).valid) (hvalid' : (verifyChain sha256 entries').valid)
    (hjson : ∀ e ∈ entries, JsonValued e.detail) (hjson' : ∀ e ∈ entries', JsonValued e.detail)
    (hhead : (HashChainedLedger.mk entries).head = (HashChainedLedger.mk entries').head) :
    List.Forall₂ SameEntry entries entries' ↔
      (entries = [] ↔ entries' = []) ∧
        ∀ (i : ℕ) (e e' : ChainEntry), entries[i]? = some e → entries'[i]? = some e' →
          ¬ DiffersInProto e.detail e'.detail := by
  have hc := (verifyChain_valid sha256 _).1 hvalid
  have hc' := (verifyChain_valid sha256 _).1 hvalid'
  rw [head_eq sha256, head_eq sha256] at hhead
  constructor
  · intro h
    refine ⟨?_, fun i e e' he he' hdiffers => hdiffers.2 ?_⟩
    · rw [← List.length_eq_zero_iff, ← List.length_eq_zero_iff, h.length_eq]
    · obtain ⟨hi, rfl⟩ := List.getElem?_eq_some_iff.1 he
      obtain ⟨hi', rfl⟩ := List.getElem?_eq_some_iff.1 he'
      exact (h.get hi hi').data.detail
  · rintro ⟨hempty, hproto⟩
    have hrel := hc.forall₂ (R := fun e e' => SameJson (dropProto e.detail) (dropProto e'.detail) ∧
        e.seq = e'.seq ∧ e.merchantId = e'.merchantId ∧ e.type = e'.type ∧
        e.occurredAt = e'.occurredAt ∧ e.prevHash = e'.prevHash) hc'
      (fun e he e' he' hdigest => by
        obtain ⟨hprev, hseq, hmerchant, htype, hat, hdetail⟩ := hashEntry_injective hinj
          (hjson e he).decimal (hjson' e' he').decimal (brace_notMem_prevHash hhex hc he)
          (brace_notMem_prevHash hhex hc' he') hdigest
        exact ⟨hseq, hprev, hdetail, hseq, hmerchant, htype, hat, hprev⟩) hempty hhead
    obtain ⟨hlen, hget⟩ := List.forall₂_iff_get.1 hrel
    refine List.forall₂_iff_get.2 ⟨hlen, fun i hi hi' => ?_⟩
    obtain ⟨hhash, hdetail, hseq, hmerchant, htype, hat, hprev⟩ := hget i hi hi'
    refine ⟨⟨hseq, hmerchant, htype, hat, ?_⟩, hprev, hhash⟩
    by_contra hdiffers
    exact hproto i _ _ (List.getElem?_eq_getElem hi) (List.getElem?_eq_getElem hi')
      ⟨hdetail, hdiffers⟩

namespace Sample

/-- A hexadecimal digest without collisions: each character in unary. -/
def unarySha256 : Digest := fun s =>
  String.ofList (s.toList.flatMap fun c => List.replicate c.toNat '0' ++ ['1'])

theorem unarySha256_injective : Function.Injective unarySha256 := by
  have hlists : ∀ cs ds : List Char,
      (cs.flatMap fun c => List.replicate c.toNat '0' ++ ['1']) =
        (ds.flatMap fun c => List.replicate c.toNat '0' ++ ['1']) → cs = ds := by
    -- the zeros before the first one are the code of the first character
    have hzeros : ∀ (n m : ℕ) (r r' : List Char),
        List.replicate n '0' ++ '1' :: r = List.replicate m '0' ++ '1' :: r' → n = m ∧ r = r' := by
      intro n
      induction n with
      | zero =>
        rintro (_ | m) r r' h
        · exact ⟨rfl, (List.cons.inj h).2⟩
        · exact absurd (List.cons.inj h).1 (by decide)
      | succ n ih =>
        rintro (_ | m) r r' h
        · exact absurd (List.cons.inj h).1 (by decide)
        · obtain ⟨hn, hr⟩ := ih m r r' (List.cons.inj h).2
          exact ⟨by rw [hn], hr⟩
    intro cs
    induction cs with
    | nil =>
      rintro (_ | ⟨d, ds⟩) h
      · rfl
      · simp at h
    | cons c cs ih =>
      rintro (_ | ⟨d, ds⟩) h
      · simp at h
      · simp only [List.flatMap_cons, List.append_assoc, List.singleton_append] at h
        obtain ⟨hcode, hrest⟩ := hzeros _ _ _ _ h
        have hc : c = d := by rw [← Char.ofNat_toNat c, hcode, Char.ofNat_toNat]
        rw [hc, ih ds hrest]
  intro s t h
  exact String.toList_inj.1 (hlists _ _ (String.ofList_inj.1 h))

theorem unarySha256_hexadecimal : Hexadecimal unarySha256 := by
  intro s c hc
  rw [unarySha256, String.toList_ofList] at hc
  obtain ⟨d, -, hd⟩ := List.mem_flatMap.1 hc
  rcases List.mem_append.1 hd with hd | hd
  · rw [(List.mem_replicate.1 hd).2]
    decide
  · rw [List.mem_singleton.1 hd]
    decide

/-- A recovery with a detail. -/
def recoveredWith (detail : Record) : ChainEntry :=
  linked unarySha256 0 genesisHash ⟨"mrc_1", "case.recovered", "2026-08-01T02:00:05.000Z", detail⟩

theorem recoveredWith_valid (detail : Record) :
    (verifyChain unarySha256 [recoveredWith detail]).valid :=
  (verifyChain_valid _ _).2 (ofInputs_chained unarySha256
    [⟨"mrc_1", "case.recovered", "2026-08-01T02:00:05.000Z", detail⟩])

/-- The head depends on the sorted keys of the detail. -/
theorem recoveredWith_head {d d' : Record} (h : sortKeys (.obj d) = sortKeys (.obj d')) :
    (HashChainedLedger.mk [recoveredWith d]).head =
      (HashChainedLedger.mk [recoveredWith d']).head := by
  have hhead : ∀ d, (HashChainedLedger.mk [recoveredWith d]).head = (recoveredWith d).hash :=
    fun _ => rfl
  rw [hhead, hhead]
  simp only [recoveredWith, linked, hashEntry, canonicalize, stable, h]

/-- The amount that was recovered. -/
def recoveredDetail : Record := [("invoiceId", .str "inv_1"), ("amount", .num 4999)]

/-- The same with another property. -/
def alteredDetail : Record := recoveredDetail ++ [("__proto__", .obj [("amount", .num 99)])]

theorem recoveredDetail_json : JsonValued (.obj recoveredDetail) := by
  refine ⟨by simp [recoveredDetail, DistinctKeys, DistinctKeysFields], ?_⟩
  simp only [recoveredDetail, AllDecimal, AllDecimalFields, true_and, and_true]
  decide

end Sample

/-- A `__proto__` property is added to an entry of a ledger; it verifies and keeps its head. -/
theorem tamper_evident_fails :
    Function.Injective Sample.unarySha256 ∧ Hexadecimal Sample.unarySha256 ∧
      let entries := [Sample.recoveredWith Sample.recoveredDetail]
      let entries' := [Sample.recoveredWith Sample.alteredDetail]
      (verifyChain Sample.unarySha256 entries).valid ∧
        (verifyChain Sample.unarySha256 entries').valid ∧
        (∀ e ∈ entries, JsonValued e.detail) ∧ (∀ e ∈ entries', JsonValued e.detail) ∧
        (HashChainedLedger.mk entries).head = (HashChainedLedger.mk entries').head ∧
        ¬ List.Forall₂ SameEntry entries entries' := by
  have hsort : sortKeys (.obj Sample.recoveredDetail) = sortKeys (.obj Sample.alteredDetail) := by
    rw [sortKeys_eq_iff]
    rfl
  refine ⟨Sample.unarySha256_injective, Sample.unarySha256_hexadecimal,
    Sample.recoveredWith_valid _, Sample.recoveredWith_valid _, ?_, ?_,
    Sample.recoveredWith_head hsort, ?_⟩
  · intro e he
    rw [List.mem_singleton.1 he]
    exact Sample.recoveredDetail_json
  · intro e he
    rw [List.mem_singleton.1 he]
    refine ⟨by simp [Sample.recoveredWith, linked, Sample.alteredDetail, Sample.recoveredDetail,
      DistinctKeys, DistinctKeysFields], ?_⟩
    simp only [Sample.recoveredWith, linked, Sample.alteredDetail, Sample.recoveredDetail,
      List.cons_append, List.nil_append, AllDecimal, AllDecimalFields, true_and, and_true]
    decide
  · intro h
    obtain ⟨hsame, -⟩ := List.forall₂_cons.1 h
    have hdetail : SameJson (.obj Sample.recoveredDetail) (.obj Sample.alteredDetail) :=
      hsame.data.detail
    exact absurd hdetail.length_eq (by decide)

/-- Keys in another order are no edit. -/
theorem tamper_evident_reordered :
    List.Forall₂ SameEntry [Sample.recoveredWith Sample.recoveredDetail]
      [Sample.recoveredWith Sample.recoveredDetail.reverse] := by
  have hsame : SameJson (.obj Sample.recoveredDetail) (.obj Sample.recoveredDetail.reverse) := by
    rw [SameJson, normal, normal, rebuild_obj, rebuild_obj]
    refine congrArg Json.obj (sortFields_congr ((List.reverse_perm _).symm.map _) ?_)
    decide
  refine (tamper_evident_iff Sample.unarySha256_injective Sample.unarySha256_hexadecimal
    (Sample.recoveredWith_valid _) (Sample.recoveredWith_valid _) ?_ ?_
    (Sample.recoveredWith_head (sortKeys_congr hsame))).2 ⟨by simp, fun i e e' he he' hdiffers => ?_⟩
  · intro e he
    rw [List.mem_singleton.1 he]
    exact Sample.recoveredDetail_json
  · intro e he
    rw [List.mem_singleton.1 he]
    refine ⟨by simp [Sample.recoveredWith, linked, Sample.recoveredDetail, DistinctKeys,
      DistinctKeysFields], ?_⟩
    have hdecimal := Sample.recoveredDetail_json.decimal
    simp only [Sample.recoveredDetail, AllDecimal, AllDecimalFields] at hdecimal
    simpa [Sample.recoveredWith, linked, Sample.recoveredDetail, AllDecimal, AllDecimalFields]
      using hdecimal
  · obtain rfl := List.mem_singleton.1 (List.mem_of_getElem? he)
    obtain rfl := List.mem_singleton.1 (List.mem_of_getElem? he')
    exact hdiffers.2 hsame

end AX10M
