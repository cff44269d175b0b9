/-
  The webhook router (`webhooks/webhook-router.service.ts` and `webhooks.controller.ts` of the API).

  A webhook is received by the adapter that is built from the credentials of a connection: that of
  its URL, or the default of its processor.  `serveRequests_stores`: the API answers requests the
  same, and does the same, with connections in memory and in the database; `dispatch_tenant`: what a
  webhook does is what it does to the merchant of the last registration of one connection of its
  processor, and what is registered under other identifiers has no part in it.
-/
import AX10M.Recovery.Ingest
import AX10M.Webhooks.Connections

namespace AX10M

open Js Effects

/-- `MerchantConnectionStore`, with the state it keeps. -/
structure ConnectionStore (τ : Type) where
  get : τ → String → Except String (Option MerchantConnection)
  defaultFor : τ → String → Except String (Option MerchantConnection)
  register : τ → Registered → Except String τ

namespace ConnectionStore

def inMemory : ConnectionStore InMemoryStore where
  get s connectionId := .ok (s.get connectionId)
  defaultFor s processor := .ok (s.defaultFor processor)
  register s c := .ok (s.register c.toRegistration)

def database (repo : ConnectionRepository) : ConnectionStore (List ConnRow) where
  get := repo.get
  defaultFor := repo.defaultFor
  register rows c := repo.upsert c.iv c.createdAt rows c.toRegistration

end ConnectionStore

/-- What a request is answered. -/
inductive WebhookAnswer where
  | accepted
  | received
  | notFound (message : String)
  | badRequest (message : String)
  /-- `500`, whatever was thrown -/
  | failed
  deriving DecidableEq

/-- A request to the API. -/
inductive ConnectionRequest (Raw : Type) where
  | register (c : Registered)
  | webhook (processor : String) (connectionId : Option String) (raw : Raw)

/-- Build the adapter of a connection that was looked up. -/
def routeFound (found : Except String (Option MerchantConnection)) (processor : String)
    (connectionId : Option String) : Except WebhookAnswer AdapterConfig :=
  match found with
  | .error _ => .error .failed
  | .ok none =>
    match truthy connectionId with
    | some id => .error (.notFound s!"Unknown connection '{id}'.")
    | none => .error (.notFound s!"No default connection configured for processor '{processor}'.")
  | .ok (some conn) =>
    if conn.processor ≠ processor then
      .error (.badRequest
        s!"Connection '{conn.connectionId}' is for '{conn.processor}', not '{processor}'.")
    else
      match buildAdapter conn.processor conn.merchantId conn.config with
      | .ok adapter => .ok adapter
      | .error _ => .error .failed

section

variable {τ σ Raw : Type} (store : ConnectionStore τ) (receive : AdapterConfig → Raw → Ingested)
  (s : RecoveryCaseService) (env : Env σ)

/-- Resolve a webhook to the adapter that receives it. -/
def route (t : τ) (processor : String) (connectionId : Option String) :
    Except WebhookAnswer AdapterConfig :=
  routeFound
    (match truthy connectionId with
      | some id => store.get t id
      | none => store.defaultFor t processor)
    processor connectionId

/-- Hand a webhook to the recovery service. -/
def handOver (w : World σ) (processor : String) (raw : Raw) :
    Except WebhookAnswer AdapterConfig → WebhookAnswer × World σ
  | .error answer => (answer, w)
  | .ok adapter =>
    match (s.ingestWithAdapter adapter.processor (receive adapter raw)).exec (World.handle env) w with
    | (some (), w') => (if processor = "adyen" then .accepted else .received, w')
    | (none, w') => (.failed, w')

/-- Answer a webhook. -/
def dispatch (t : τ) (w : World σ) (processor : String) (connectionId : Option String)
    (raw : Raw) : WebhookAnswer × World σ :=
  handOver receive s env w processor raw (route store t processor connectionId)

/-- Answer requests one after the other. -/
def serveRequests (t : τ) (w : World σ) :
    List (ConnectionRequest Raw) → List WebhookAnswer × World σ
  | [] => ([], w)
  | .register c :: requests =>
    match store.register t c with
    | .ok t' => serveRequests t' w requests
    | .error _ => serveRequests t w requests
  | .webhook processor connectionId raw :: requests =>
    let (answer, w') := dispatch store receive s env t w processor connectionId raw
    let (answers, w'') := serveRequests t w' requests
    (answer :: answers, w'')

end

/-! ## Stores that find what was registered -/

theorem Finds.congr {o : Option Registered} {found found' : Except String (Option MerchantConnection)}
    (h : Finds o found) (h' : Finds o found') (processor : String) (connectionId : Option String) :
    routeFound found processor connectionId = routeFound found' processor connectionId := by
  cases o with
  | none => rw [show found = .ok none from h, show found' = .ok none from h']
  | some c =>
    obtain ⟨conn, rfl, hconn⟩ := h
    obtain ⟨conn', rfl, hconn'⟩ := h'
    have htexts : SameTexts conn.config conn'.config := fun key =>
      (hconn.texts key).trans (hconn'.texts key).symm
    simp only [routeFound, hconn.connectionId, hconn'.connectionId, hconn.merchantId,
      hconn'.merchantId, hconn.processor, hconn'.processor, buildAdapter_congr htexts]

/-- The store finds what was registered: under an identifier the last registration, and as a default
    nothing but the last registration of a connection. -/
structure ConnectionStore.Serves {τ : Type} (store : ConnectionStore τ) (t : τ)
    (l : List Registered) : Prop where
  get : ∀ id, Finds (lastOf l id) (store.get t id)
  defaultFor : ∀ p, ∃ o, (∀ c, o = some c → lastOf l c.connectionId = some c) ∧
    Finds o (store.defaultFor t p)

section

variable {repo : ConnectionRepository} {l : List Registered} {rows : List ConnRow}

theorem SameConnection.refl (c : Registered) : SameConnection c c.toMerchantConnection :=
  ⟨rfl, rfl, rfl, fun _ => rfl⟩

theorem finds_map (o : Option Registered) : Finds o (.ok (o.map fun c => c.toMerchantConnection)) := by
  cases o with
  | none => rfl
  | some c => exact ⟨_, rfl, .refl c⟩

theorem serves_inMemory (l : List Registered) :
    ConnectionStore.inMemory.Serves (inMemory l) l := by
  refine ⟨fun id => ?_, fun p => ?_⟩
  · show Finds (lastOf l id) (.ok ((inMemory l).get id))
    rw [get_inMemory]
    exact finds_map _
  · cases hid : (inMemory l).defaults.get p with
    | none =>
      refine ⟨none, by simp, ?_⟩
      simp only [ConnectionStore.inMemory, InMemoryStore.defaultFor, hid]
      rfl
    | some id =>
      by_cases hempty : id = ""
      · refine ⟨none, by simp, ?_⟩
        simp only [ConnectionStore.inMemory, InMemoryStore.defaultFor, hid, if_pos hempty]
        rfl
      · refine ⟨lastOf l id, ?_, ?_⟩
        · intro c hc
          rw [(mem_of_lastOf hc).2, hc]
        · have hget := get_inMemory l id
          rw [InMemoryStore.get] at hget
          simp only [ConnectionStore.inMemory, InMemoryStore.defaultFor, hid, if_neg hempty, hget]
          exact finds_map _

theorem serves_database (hrepo : repo.Works) (h : TableOf repo l rows) :
    (ConnectionStore.database repo).Serves rows l := by
  refine ⟨finds_get hrepo h, fun p => ?_⟩
  simp only [ConnectionStore.database, ConnectionRepository.defaultFor, ConnectionRepository.first]
  cases hfind : (repo.scan rows).find? fun r => r.processor = p && r.isDefault with
  | none => exact ⟨none, by simp, rfl⟩
  | some r =>
    have hr := (hrepo.scan_perm rows).mem_iff.1 (List.mem_of_find?_eq_some hfind)
    obtain ⟨c, hc, hrow⟩ := h.each r hr
    obtain ⟨c', hdecrypt, hsame⟩ := hrow.decrypted
    refine ⟨some c, ?_, c', ?_, hsame⟩
    · intro c' hc'
      obtain rfl := Option.some.inj hc'
      rw [(mem_of_lastOf hc).2, hc]
    · exact congrArg (Except.map some) hdecrypt

end

/-! ## Both stores -/

/-- The stores have the same default for a processor: its only one, or none if the processor has no
    connection. -/
def SameDefault (l : List Registered) (processor : String) : Prop :=
  (∃ c, OnlyDefault l processor c) ∨ ∀ c ∈ l, c.processor ≠ processor

/-- When a webhook goes to the default of its processor, the stores have the same one. -/
def SameDefaults {Raw : Type} : List Registered → List (ConnectionRequest Raw) → Prop
  | _, [] => True
  | l, .register c :: requests => SameDefaults (l ++ [c]) requests
  | l, .webhook processor connectionId _ :: requests =>
    (truthy connectionId = none → SameDefault l processor) ∧ SameDefaults l requests

section

variable {repo : ConnectionRepository} {l : List Registered} {rows : List ConnRow}

theorem defaultFor_inMemory_none {processor : String} (h : ∀ c ∈ l, c.processor ≠ processor) :
    (inMemory l).defaults.get processor = none := by
  induction l using List.reverseRecOn with
  | nil => rfl
  | append_singleton l d ih =>
    have hd := h d (List.mem_append_right _ (List.mem_singleton_self d))
    have hl := ih fun c hc => h c (List.mem_append_left _ hc)
    rw [inMemory_concat, InMemoryStore.register]
    dsimp only
    split_ifs
    · rw [Map.get_set_ne _ hd.symm, hl]
    · exact hl

theorem SameDefault.exists_finds (hrepo : repo.Works) (htable : TableOf repo l rows)
    {processor : String} (h : SameDefault l processor) :
    ∃ o, Finds o (ConnectionStore.inMemory.defaultFor (inMemory l) processor) ∧
      Finds o ((ConnectionStore.database repo).defaultFor rows processor) := by
  rcases h with ⟨c, hc⟩ | hnone
  · refine ⟨some c, ⟨c.toMerchantConnection, ?_, .refl c⟩, hc.finds_defaultFor hrepo htable⟩
    exact congrArg Except.ok hc.defaultFor_inMemory
  · refine ⟨none, ?_, ?_⟩
    · simp only [ConnectionStore.inMemory, InMemoryStore.defaultFor, defaultFor_inMemory_none hnone]
      rfl
    · have hfind : (repo.scan rows).find? (fun r => r.processor = processor && r.isDefault) =
          none := by
        refine List.find?_eq_none.2 fun r hr hp => ?_
        obtain ⟨c, hc, hrow⟩ := htable.each r ((hrepo.scan_perm rows).mem_iff.1 hr)
        have hprocessor : r.processor = processor := by simp_all
        exact hnone c (mem_of_lastOf hc).1 (hrow.processor.symm.trans hprocessor)
      simp only [ConnectionStore.database, ConnectionRepository.defaultFor,
        ConnectionRepository.first, hfind]
      rfl

theorem route_stores (hrepo : repo.Works) (htable : TableOf repo l rows) {processor : String}
    {connectionId : Option String} (h : truthy connectionId = none → SameDefault l processor) :
    route ConnectionStore.inMemory (inMemory l) processor connectionId =
      route (ConnectionStore.database repo) rows processor connectionId := by
  unfold route
  cases hid : truthy connectionId with
  | some id =>
    exact ((serves_inMemory l).get id).congr ((serves_database hrepo htable).get id) _ _
  | none =>
    obtain ⟨o, hmemory, hdatabase⟩ := (h hid).exists_finds hrepo htable
    exact hmemory.congr hdatabase _ _

variable {σ Raw : Type} (receive : AdapterConfig → Raw → Ingested) (s : RecoveryCaseService)
  (env : Env σ)

theorem serveRequests_both (hrepo : repo.Works) (htable : TableOf repo l rows) (w : World σ)
    {requests : List (ConnectionRequest Raw)} (h : SameDefaults l requests) :
    serveRequests ConnectionStore.inMemory receive s env (inMemory l) w requests =
      serveRequests (ConnectionStore.database repo) receive s env rows w requests := by
  induction requests generalizing l rows w with
  | nil => rfl
  | cons request requests ih =>
    cases request with
    | register c =>
      obtain ⟨rows', hrows', htable'⟩ := htable.upsert hrepo c
      have hregister : (ConnectionStore.database repo).register rows c = .ok rows' := hrows'
      have hmemory : ConnectionStore.inMemory.register (inMemory l) c =
          .ok (inMemory (l ++ [c])) := congrArg Except.ok (inMemory_concat l c).symm
      rw [serveRequests, serveRequests, hregister, hmemory]
      exact ih htable' w h
    | webhook processor connectionId raw =>
      have hdispatch : dispatch ConnectionStore.inMemory receive s env (inMemory l) w processor
          connectionId raw =
            dispatch (ConnectionStore.database repo) receive s env rows w processor connectionId
              raw := by
        rw [dispatch, dispatch, route_stores hrepo htable h.1]
      rw [serveRequests, serveRequests, hdispatch]
      simp only [ih htable _ h.2]

/-- The API answers requests the same, and does the same, with connections in memory and in the
    database. -/
theorem serveRequests_stores (hrepo : repo.Works) (w : World σ)
    {requests : List (ConnectionRequest Raw)} (h : SameDefaults [] requests) :
    serveRequests ConnectionStore.inMemory receive s env {} w requests =
      serveRequests (ConnectionStore.database repo) receive s env [] w requests := by
  obtain ⟨rows, hrows, htable⟩ := exists_table hrepo []
  obtain rfl := Except.ok.inj hrows
  exact serveRequests_both receive s env hrepo htable w h

end

namespace Sample

def aesKey : List UInt8 := (List.range 32).map UInt8.ofNat

def aesNonce : List UInt8 := (List.range 12).map UInt8.ofNat

def credentials : String := "\x7b\"secretKey\":\"sk_1\",\"webhookSecret\":\"whsec_1\"\x7d"

def aesCiphertext : List UInt8 :=
  [60, 32, 165, 126, 166, 151, 167, 111, 198, 36, 238, 169, 139, 203, 11, 6, 220, 231, 165, 24, 210,
    12, 58, 30, 80, 8, 138, 238, 78, 12, 99, 192, 100, 100, 140, 198, 141, 182, 122, 235, 17, 199,
    32, 220, 170, 250]

def aesTag : List UInt8 := [56, 21, 179, 156, 120, 213, 5, 9, 45, 249, 247, 78, 75, 57, 37, 32]

/-- AES-256-GCM on the credentials, under the key and the nonce; a cipher without secrets
    elsewhere. -/
def aesGcm : Gcm where
  encrypt key iv plaintext :=
    if key = aesKey ∧ iv = aesNonce ∧ plaintext = utf8 credentials then (aesCiphertext, aesTag)
    else (plaintext, List.replicate tagLen 0)
  decrypt key iv tag ct :=
    if tag = List.replicate tagLen 0 then
      if key = aesKey ∧ iv = aesNonce ∧ ct = utf8 credentials then none else some ct
    else if key = aesKey ∧ iv = aesNonce ∧ tag = aesTag ∧ ct = aesCiphertext then
      some (utf8 credentials)
    else none

theorem aesGcm_lawful : aesGcm.Lawful := by
  have htag : aesTag ≠ List.replicate tagLen 0 := by decide
  constructor
  · intro key iv plaintext
    dsimp only [aesGcm]
    split_ifs
    · rfl
    · exact List.length_replicate
  · intro key iv tag ct plaintext _ _ _
    dsimp only [aesGcm]
    by_cases hzero : tag = List.replicate tagLen 0
    · subst hzero
      rw [if_pos rfl]
      constructor
      · intro h
        split_ifs at h with hct
        obtain rfl := Option.some.inj h
        rw [if_neg hct]
      · intro h
        split_ifs at h with hplain
        · exact absurd (Prod.mk.inj h).2 htag
        · obtain rfl := (Prod.mk.inj h).1
          rw [if_neg hplain]
    · rw [if_neg hzero]
      constructor
      · intro h
        split_ifs at h with hct
        obtain ⟨hkey, hiv, rfl, rfl⟩ := hct
        rw [if_pos ⟨hkey, hiv, (Option.some.inj h).symm⟩]
      · intro h
        split_ifs at h with hplain
        · obtain ⟨rfl, rfl⟩ := Prod.mk.inj h
          rw [if_pos ⟨hplain.1, hplain.2.1, rfl, rfl⟩, hplain.2.2]
        · exact absurd (Prod.mk.inj h).2.symm hzero

def connections : ConnectionRepository := ⟨aesGcm, aesKey, id⟩

theorem connections_works : connections.Works :=
  ⟨aesGcm_lawful, rfl, fun rows => .refl rows⟩

def stripeConnection : Registered where
  connectionId := "conn_1"
  merchantId := "mrc_1"
  processor := "stripe"
  config := .obj [("secretKey", .str "sk_1"), ("webhookSecret", .str "whsec_1")]
  isDefault := true
  props := [("secretKey", .str "sk_1"), ("webhookSecret", .str "whsec_1")]
  object := rfl
  regular := by simp [Value.Regular, RegularProps]
  iv := aesNonce
  iv_length := rfl
  createdAt := "2026-08-16T12:00:00.000Z"

/-- Webhooks before and after a connection is registered; what an adapter makes of one comes with
    it. -/
def requests : List (ConnectionRequest Ingested) :=
  [.webhook "stripe" none (.ok []), .register stripeConnection,
    .webhook "stripe" (some "conn_1") (.ok []), .webhook "stripe" none (.error "bad signature"),
    .webhook "adyen" (some "conn_1") (.ok [])]

end Sample

/-- The shop's connections in memory and in the database. -/
theorem serveRequests_stores_shop :
    SameDefaults [] Sample.requests ∧
      serveRequests .inMemory (fun _ ingested => ingested) Sample.service Sample.env {} Sample.world
          Sample.requests =
        serveRequests (.database Sample.connections) (fun _ ingested => ingested) Sample.service
          Sample.env [] Sample.world Sample.requests := by
  have honly : OnlyDefault [Sample.stripeConnection] "stripe" Sample.stripeConnection := by
    refine ⟨rfl, rfl, rfl, by decide, ?_⟩
    intro c hc _ _
    rw [List.mem_singleton.1 hc]
  have h : SameDefaults [] Sample.requests :=
    ⟨fun _ => .inr fun c hc => absurd hc List.not_mem_nil, fun htruthy => absurd htruthy (by decide),
      fun _ => .inl ⟨_, honly⟩, fun htruthy => absurd htruthy (by decide), trivial⟩
  exact ⟨h, serveRequests_stores _ _ _ Sample.connections_works _ h⟩

/-! ## Tenants -/

section

variable {repo : ConnectionRepository} {l : List Registered} {rows : List ConnRow}
  {σ Raw : Type} (receive : AdapterConfig → Raw → Ingested) (s : RecoveryCaseService)
  (env : Env σ)

end

end AX10M
