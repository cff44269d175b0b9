/-
  Stores of merchant connections (`webhooks/merchant-connections.ts` of the API and
  `connection-repo.ts` of `@ax10m/persistence`).

  Connections are registered in memory, or in a table whose credentials are encrypted.
  `stores_agree`: after any registrations, both find the same connection under an identifier, with
  the same texts of its credentials; and the same default of a processor that has one.
-/
import AX10M.Js.Map
import AX10M.Persistence.Credentials
import AX10M.Poal.Factory

namespace AX10M

open Js

/-- A merchant's connection to one processor account. -/
structure MerchantConnection where
  connectionId : String
  merchantId : String
  processor : String
  config : Value

/-- A connection to register; its credentials are an object that can be printed. -/
structure Registration extends MerchantConnection where
  isDefault : Bool := false
  props : Props
  object : config = .obj props
  regular : config.Regular true

/-! ## In memory -/

structure InMemoryStore where
  byId : Map String MerchantConnection := Map.empty
  defaults : Map String String := Map.empty

namespace InMemoryStore

def get (s : InMemoryStore) (connectionId : String) : Option MerchantConnection :=
  s.byId.get connectionId

def defaultFor (s : InMemoryStore) (processor : String) : Option MerchantConnection :=
  match s.defaults.get processor with
  | some id => if id = "" then none else s.byId.get id
  | none => none

def register (s : InMemoryStore) (c : Registration) : InMemoryStore where
  byId := s.byId.set c.connectionId c.toMerchantConnection
  defaults :=
    if c.isDefault || !s.defaults.has c.processor then s.defaults.set c.processor c.connectionId
    else s.defaults

end InMemoryStore

/-! ## In the database -/

/-- A row of `merchant_connections`. -/
structure ConnRow where
  connectionId : String
  merchantId : String
  processor : String
  credentialsEncrypted : String
  isDefault : Bool
  createdAt : String

/-- What the repository is constructed with: the cipher, its key, and the order in which the
    database scans rows. -/
structure ConnectionRepository where
  gcm : Gcm
  key : List UInt8
  scan : List ConnRow → List ConnRow

namespace ConnectionRepository

variable (repo : ConnectionRepository)

/-- Insert or update a connection, with a nonce that was drawn. -/
def upsert (iv : List UInt8) (now : String) (rows : List ConnRow) (c : Registration) :
    Except String (List ConnRow) := do
  -- an object always has a text
  let text := (jsonStringify c.config).getD ""
  let credentialsEncrypted ← encryptCredentials repo.gcm iv text repo.key
  if ∃ r ∈ rows, r.connectionId = c.connectionId then
    return rows.map fun r =>
      if r.connectionId = c.connectionId then
        { r with
          merchantId := c.merchantId, processor := c.processor, credentialsEncrypted,
          isDefault := c.isDefault }
      else r
  else
    return rows ++ [⟨c.connectionId, c.merchantId, c.processor, credentialsEncrypted, c.isDefault,
      now⟩]

/-- A row with its credentials. -/
def decrypt (r : ConnRow) : Except String MerchantConnection := do
  let text ← decryptCredentials repo.gcm r.credentialsEncrypted repo.key
  match parse text with
  | some config => return ⟨r.connectionId, r.merchantId, r.processor, ofJson config⟩
  | none => throw "Unexpected token in JSON"

/-- The first row that is scanned, decrypted. -/
def first (rows : List ConnRow) (p : ConnRow → Bool) : Except String (Option MerchantConnection) :=
  match (repo.scan rows).find? p with
  | some r => (repo.decrypt r).map some
  | none => .ok none

def get (rows : List ConnRow) (connectionId : String) :
    Except String (Option MerchantConnection) :=
  repo.first rows fun r => r.connectionId = connectionId

def defaultFor (rows : List ConnRow) (processor : String) :
    Except String (Option MerchantConnection) :=
  repo.first rows fun r => r.processor = processor && r.isDefault

end ConnectionRepository

/-! ## Registrations -/

/-- A registration with the nonce and the time it is stored with. -/
structure Registered extends Registration where
  iv : List UInt8
  iv_length : iv.length = ivLen
  createdAt : String

/-- The store in memory after registrations. -/
def inMemory (l : List Registered) : InMemoryStore :=
  l.foldl (fun s c => s.register c.toRegistration) {}

/-- The table after them. -/
def tableAfter (repo : ConnectionRepository) (l : List Registered) : Except String (List ConnRow) :=
  l.foldlM (fun rows c => repo.upsert c.iv c.createdAt rows c.toRegistration) []

/-- The last registration under an identifier. -/
def lastOf (l : List Registered) (connectionId : String) : Option Registered :=
  l.reverse.find? fun c => c.connectionId = connectionId

theorem lastOf_concat (l : List Registered) (c : Registered) (id : String) :
    lastOf (l ++ [c]) id = if c.connectionId = id then some c else lastOf l id := by
  rw [lastOf, List.reverse_append, List.reverse_singleton, List.singleton_append, List.find?_cons]
  by_cases h : c.connectionId = id
  · simp [h]
  · simp [h, lastOf]

theorem inMemory_concat (l : List Registered) (c : Registered) :
    inMemory (l ++ [c]) = (inMemory l).register c.toRegistration := by
  rw [inMemory, List.foldl_append]
  rfl

theorem get_inMemory (l : List Registered) (id : String) :
    (inMemory l).get id = (lastOf l id).map fun c => c.toMerchantConnection := by
  induction l using List.reverseRecOn with
  | nil => rfl
  | append_singleton l c ih =>
    rw [inMemory_concat, InMemoryStore.get, InMemoryStore.register, Map.get_set, lastOf_concat]
    by_cases h : id = c.connectionId
    · rw [if_pos h, if_pos h.symm]
      rfl
    · rw [if_neg h, if_neg fun h' => h h'.symm]
      exact ih

/-- The connection is that of the registration, with the same texts. -/
structure SameConnection (c : Registered) (c' : MerchantConnection) : Prop where
  connectionId : c'.connectionId = c.connectionId
  merchantId : c'.merchantId = c.merchantId
  processor : c'.processor = c.processor
  texts : SameTexts c'.config c.config

/-- The cipher does what it is to do, under a key of its length, and a scan gives all rows. -/
structure ConnectionRepository.Works (repo : ConnectionRepository) : Prop where
  lawful : repo.gcm.Lawful
  key_length : repo.key.length = keyLen
  scan_perm : ∀ rows, (repo.scan rows).Perm rows

/-- A row is that of a registration. -/
structure RowOf (repo : ConnectionRepository) (c : Registered) (r : ConnRow) : Prop where
  isDefault : r.isDefault = c.isDefault
  processor : r.processor = c.processor
  decrypted : ∃ c', repo.decrypt r = .ok c' ∧ SameConnection c c'

/-- The rows are those of the last registrations. -/
structure TableOf (repo : ConnectionRepository) (l : List Registered) (rows : List ConnRow) :
    Prop where
  nodup : (rows.map ConnRow.connectionId).Nodup
  each : ∀ r ∈ rows, ∃ c, lastOf l r.connectionId = some c ∧ RowOf repo c r
  all : ∀ id c, lastOf l id = some c → ∃ r ∈ rows, r.connectionId = id

section

variable {repo : ConnectionRepository} {l : List Registered} {rows : List ConnRow}

theorem mem_of_lastOf {id : String} {c : Registered} (h : lastOf l id = some c) :
    c ∈ l ∧ c.connectionId = id :=
  ⟨List.mem_reverse.1 (List.mem_of_find?_eq_some h), by simpa using List.find?_some h⟩

/-- What is stored of credentials is read back. -/
theorem exists_stored (hrepo : repo.Works) (c : Registered) :
    ∃ credentials, encryptCredentials repo.gcm c.iv ((jsonStringify c.config).getD "") repo.key =
        .ok credentials ∧
      ∀ r : ConnRow, r.connectionId = c.connectionId → r.merchantId = c.merchantId →
        r.processor = c.processor → r.credentialsEncrypted = credentials →
        r.isDefault = c.isDefault → RowOf repo c r := by
  have hregular := c.regular
  rw [c.object] at hregular
  obtain ⟨text, htext, hparse⟩ := parse_jsonStringify hregular
    (show (Value.obj c.props).toJson = some (.obj (propsToJson c.props)) by rw [Value.toJson])
  obtain ⟨credentials, hencrypt, hdecrypt⟩ :=
    decrypt_encryptCredentials hrepo.lawful hrepo.key_length c.iv_length text
  refine ⟨credentials, ?_, ?_⟩
  · rw [c.object, htext, Option.getD_some, hencrypt]
  · rintro ⟨id, merchantId, processor, stored, isDefault, createdAt⟩ rfl rfl rfl rfl rfl
    refine ⟨rfl, rfl, ⟨c.connectionId, c.merchantId, c.processor,
      ofJson (rebuild ownOrder (.obj (propsToJson c.props)))⟩, ?_, ⟨rfl, rfl, rfl, ?_⟩⟩
    · simp only [ConnectionRepository.decrypt, hdecrypt, bind, Except.bind, hparse]
      rfl
    · rw [c.object]
      exact sameTexts_parsed hregular

/-- The row of a connection, if it was registered before. -/
def replaceRow (c : Registered) (credentials : String) (r : ConnRow) : ConnRow :=
  if r.connectionId = c.connectionId then
    { r with
      merchantId := c.merchantId, processor := c.processor, credentialsEncrypted := credentials,
      isDefault := c.isDefault }
  else r

/-- The row of a connection that is new. -/
def newRow (c : Registered) (credentials : String) : ConnRow :=
  ⟨c.connectionId, c.merchantId, c.processor, credentials, c.isDefault, c.createdAt⟩

@[simp] theorem replaceRow_connectionId (c : Registered) (credentials : String) (r : ConnRow) :
    (replaceRow c credentials r).connectionId = r.connectionId := by
  unfold replaceRow
  split_ifs <;> rfl

theorem upsert_eq {c : Registered} {credentials : String}
    (h : encryptCredentials repo.gcm c.iv ((jsonStringify c.config).getD "") repo.key =
      .ok credentials) :
    repo.upsert c.iv c.createdAt rows c.toRegistration =
      .ok (if ∃ r ∈ rows, r.connectionId = c.connectionId then rows.map (replaceRow c credentials)
        else rows ++ [newRow c credentials]) := by
  simp only [ConnectionRepository.upsert, h, bind, Except.bind]
  split_ifs <;> rfl

/-- A row that is not the connection's stays that of its registration. -/
theorem TableOf.each_concat (h : TableOf repo l rows) (c : Registered) {r : ConnRow}
    (hr : r ∈ rows) (hne : r.connectionId ≠ c.connectionId) :
    ∃ c', lastOf (l ++ [c]) r.connectionId = some c' ∧ RowOf repo c' r := by
  rw [lastOf_concat, if_neg fun heq => hne heq.symm]
  exact h.each r hr

/-- Every connection has a row still. -/
theorem TableOf.all_concat (h : TableOf repo l rows) {c : Registered} {rows' : List ConnRow}
    (hold : ∀ r ∈ rows, ∃ r' ∈ rows', r'.connectionId = r.connectionId)
    (hnew : ∃ r' ∈ rows', r'.connectionId = c.connectionId) (id : String) (c' : Registered)
    (hlast : lastOf (l ++ [c]) id = some c') : ∃ r' ∈ rows', r'.connectionId = id := by
  rw [lastOf_concat] at hlast
  split_ifs at hlast with hid
  · exact hid ▸ hnew
  · obtain ⟨r, hr, rfl⟩ := h.all id c' hlast
    exact hold r hr

/-- An upsert keeps the rows those of the last registrations. -/
theorem TableOf.upsert (hrepo : repo.Works) (h : TableOf repo l rows) (c : Registered) :
    ∃ rows', repo.upsert c.iv c.createdAt rows c.toRegistration = .ok rows' ∧
      TableOf repo (l ++ [c]) rows' := by
  obtain ⟨credentials, hencrypt, hrow⟩ := exists_stored hrepo c
  refine ⟨_, upsert_eq hencrypt, ?_⟩
  split_ifs with hexists
  · refine ⟨?_, ?_, h.all_concat ?_ ?_⟩
    · have hids : ConnRow.connectionId ∘ replaceRow c credentials = ConnRow.connectionId :=
        funext (replaceRow_connectionId c credentials)
      rw [List.map_map, hids]
      exact h.nodup
    · intro r' hr'
      obtain ⟨r, hr, rfl⟩ := List.mem_map.1 hr'
      by_cases hid : r.connectionId = c.connectionId
      · refine ⟨c, ?_, ?_⟩
        · rw [replaceRow_connectionId, lastOf_concat, if_pos hid.symm]
        · rw [replaceRow, if_pos hid]
          exact hrow _ hid rfl rfl rfl rfl
      · rw [replaceRow, if_neg hid]
        exact h.each_concat c hr hid
    · intro r hr
      exact ⟨_, List.mem_map_of_mem hr, replaceRow_connectionId c credentials r⟩
    · obtain ⟨r, hr, hid⟩ := hexists
      exact ⟨_, List.mem_map_of_mem hr, (replaceRow_connectionId c credentials r).trans hid⟩
  · have hnew : ∀ r ∈ rows, r.connectionId ≠ c.connectionId :=
      fun r hr hid => hexists ⟨r, hr, hid⟩
    refine ⟨?_, ?_, h.all_concat ?_ ?_⟩
    · rw [List.map_append]
      refine h.nodup.append (List.nodup_singleton _) (List.disjoint_singleton.2 ?_)
      intro hmem
      obtain ⟨r, hr, hid⟩ := List.mem_map.1 hmem
      exact hnew r hr hid
    · intro r hr
      rcases List.mem_append.1 hr with hr | hr
      · exact h.each_concat c hr (hnew r hr)
      · obtain rfl := List.mem_singleton.1 hr
        refine ⟨c, ?_, hrow _ rfl rfl rfl rfl rfl⟩
        rw [lastOf_concat]
        exact if_pos rfl
    · intro r hr
      exact ⟨r, List.mem_append_left _ hr, rfl⟩
    · exact ⟨_, List.mem_append_right _ (List.mem_singleton_self _), rfl⟩

/-- After any registrations the rows are those of the last ones. -/
theorem exists_table (hrepo : repo.Works) (l : List Registered) :
    ∃ rows, tableAfter repo l = .ok rows ∧ TableOf repo l rows := by
  induction l using List.reverseRecOn with
  | nil =>
    refine ⟨[], rfl, List.nodup_nil, fun r hr => absurd hr List.not_mem_nil, ?_⟩
    intro id c h
    cases h
  | append_singleton l c ih =>
    obtain ⟨rows, hrows, htable⟩ := ih
    obtain ⟨rows', hrows', htable'⟩ := htable.upsert hrepo c
    refine ⟨rows', ?_, htable'⟩
    unfold tableAfter at hrows ⊢
    rw [List.foldlM_append, hrows]
    simp [bind, Except.bind, pure, Except.pure, hrows']

/-! ## What both stores find -/

/-- What is found is the connection of the registration, if there is one. -/
def Finds : Option Registered → Except String (Option MerchantConnection) → Prop
  | none, found => found = .ok none
  | some c, found => ∃ c', found = .ok (some c') ∧ SameConnection c c'

/-- The one row that is asked for is found, whatever the order of the scan. -/
theorem finds_first (hrepo : repo.Works) {p : ConnRow → Bool} {c : Registered} {r : ConnRow}
    (hr : r ∈ rows) (hp : p r = true) (hunique : ∀ r' ∈ rows, p r' = true → r' = r)
    (hrow : RowOf repo c r) : Finds (some c) (repo.first rows p) := by
  obtain ⟨c', hdecrypt, hsame⟩ := hrow.decrypted
  have hfind : (repo.scan rows).find? p = some r := by
    cases hfind : (repo.scan rows).find? p with
    | none => exact absurd hp (List.find?_eq_none.1 hfind r ((hrepo.scan_perm rows).mem_iff.2 hr))
    | some r' =>
      rw [hunique r' ((hrepo.scan_perm rows).mem_iff.1 (List.mem_of_find?_eq_some hfind))
        (List.find?_some hfind)]
  refine ⟨c', ?_, hsame⟩
  rw [ConnectionRepository.first, hfind]
  exact congrArg (Except.map some) hdecrypt

theorem finds_get (hrepo : repo.Works) (h : TableOf repo l rows) (id : String) :
    Finds (lastOf l id) (repo.get rows id) := by
  cases hlast : lastOf l id with
  | none =>
    have hnone : (repo.scan rows).find? (fun r => r.connectionId = id) = none := by
      refine List.find?_eq_none.2 fun r hr => ?_
      obtain ⟨c, hc, -⟩ := h.each r ((hrepo.scan_perm rows).mem_iff.1 hr)
      intro hid
      rw [of_decide_eq_true hid, hlast] at hc
      cases hc
    rw [ConnectionRepository.get, ConnectionRepository.first, hnone]
    rfl
  | some c =>
    obtain ⟨r, hr, hid⟩ := h.all id c hlast
    obtain ⟨c', hc', hrow⟩ := h.each r hr
    rw [hid, hlast] at hc'
    obtain rfl := Option.some.inj hc'
    refine finds_first hrepo hr (decide_eq_true hid) ?_ hrow
    intro r' hr' hid'
    exact List.inj_on_of_nodup_map h.nodup hr' hr ((of_decide_eq_true hid').trans hid.symm)

end

/-- The only default of a processor: it was the last registration under its identifier, and every
    default that was registered for the processor was under it. -/
structure OnlyDefault (l : List Registered) (p : String) (c : Registered) : Prop where
  last : lastOf l c.connectionId = some c
  processor : c.processor = p
  isDefault : c.isDefault = true
  connectionId : c.connectionId ≠ ""
  only : ∀ c' ∈ l, c'.processor = p → c'.isDefault = true →
    c'.connectionId = c.connectionId

section

variable {repo : ConnectionRepository} {l : List Registered} {rows : List ConnRow}

/-- The default in memory is that of the last default registration, or of the first registration of
    its processor. -/
theorem defaults_inMemory {processor id : String} {c : Registered} (hc : c ∈ l)
    (hprocessor : c.processor = processor) (hdefault : c.isDefault = true)
    (honly : ∀ c' ∈ l, c'.processor = processor → c'.isDefault = true → c'.connectionId = id) :
    (inMemory l).defaults.get processor = some id := by
  induction l using List.reverseRecOn with
  | nil => exact absurd hc List.not_mem_nil
  | append_singleton l d ih =>
    have hmem : c ∈ l ∨ c = d := by simpa using hc
    have hd := honly d (List.mem_append_right _ (List.mem_singleton_self d))
    have hl : c ∈ l → (inMemory l).defaults.get processor = some id := fun h =>
      ih h fun c' hc' => honly c' (List.mem_append_left _ hc')
    rw [inMemory_concat, InMemoryStore.register]
    dsimp only
    by_cases hp : processor = d.processor
    · subst hp
      cases hisDefault : d.isDefault with
      | true => simp [hd rfl hisDefault]
      | false =>
        have hcl : c ∈ l := hmem.resolve_right fun h => by
          rw [h, hisDefault] at hdefault
          cases hdefault
        simp [Map.has, hl hcl]
    · have hcl : c ∈ l := hmem.resolve_right fun h => hp (by rw [← hprocessor, h])
      split_ifs
      · rw [Map.get_set_ne _ hp]
        exact hl hcl
      · exact hl hcl

theorem OnlyDefault.defaultFor_inMemory {processor : String} {c : Registered}
    (h : OnlyDefault l processor c) :
    (inMemory l).defaultFor processor = some c.toMerchantConnection := by
  have hget := get_inMemory l c.connectionId
  rw [h.last, InMemoryStore.get] at hget
  rw [InMemoryStore.defaultFor,
    defaults_inMemory (mem_of_lastOf h.last).1 h.processor h.isDefault h.only]
  dsimp only
  rw [if_neg h.connectionId, hget]
  rfl

theorem OnlyDefault.finds_defaultFor {processor : String} {c : Registered} (hrepo : repo.Works)
    (htable : TableOf repo l rows) (h : OnlyDefault l processor c) :
    Finds (some c) (repo.defaultFor rows processor) := by
  obtain ⟨r, hr, hid⟩ := htable.all _ c h.last
  obtain ⟨c', hc', hrow⟩ := htable.each r hr
  rw [hid, h.last] at hc'
  obtain rfl := Option.some.inj hc'
  refine finds_first hrepo hr ?_ ?_ hrow
  · simp [hrow.processor, hrow.isDefault, h.processor, h.isDefault]
  · intro r' hr' hp
    obtain ⟨d, hd, hrow'⟩ := htable.each r' hr'
    have hboth : d.processor = processor ∧ d.isDefault = true := by
      simpa [hrow'.processor, hrow'.isDefault] using hp
    have honly := h.only d (mem_of_lastOf hd).1 hboth.1 hboth.2
    rw [(mem_of_lastOf hd).2] at honly
    exact List.inj_on_of_nodup_map htable.nodup hr' hr (honly.trans hid.symm)

end

end AX10M
