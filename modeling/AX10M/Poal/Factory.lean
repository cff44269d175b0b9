/-
  The adapter factory (`factory.ts` of `@ax10m/poal`).

  Each processor's builder reads some fields of the credentials that it is given; what the adapter
  is configured with is all that is kept of it.  `buildAdapter_congr`: credentials that have the
  same texts build the same adapter.
-/
import AX10M.Js.Value

namespace AX10M

open Js

/-- A property of a value. -/
def property (config : Value) (key : String) : Option Value :=
  match config with
  | .obj props => props.lookup key
  | _ => none

/-- A text that is not empty. -/
def nonEmptyText : Option Value → Option String
  | some (.str s) => if s = "" then none else some s
  | _ => none

/-- A field that is a text, and not empty. -/
def credentialText (config : Value) (key : String) : Option String :=
  nonEmptyText (property config key)

/-- How a builder reads a field. -/
inductive CredentialField where
  /-- `str(c, key)` -/
  | required (key : String)
  /-- `opt(c, key)` -/
  | optional (key : String)
  /-- `opt(c, key) === value ? value : otherwise` -/
  | choice (key value otherwise : String)

/-- What an adapter is configured with. -/
structure AdapterConfig where
  processor : String
  merchantId : String
  fields : List (String × Option String)
  deriving DecidableEq

/-- `ADAPTER_FACTORIES`. -/
def adapterFactories : List (String × List CredentialField) := [
  ("stripe", [.required "secretKey", .required "webhookSecret", .optional "apiVersion"]),
  ("adyen", [.required "apiKey", .required "merchantAccount", .optional "hmacKey",
    .optional "baseUrl"]),
  ("braintree", [.required "braintreeMerchantId", .required "publicKey", .required "privateKey",
    .choice "environment" "production" "sandbox", .optional "baseUrl"]),
  ("paypal", [.required "clientId", .required "clientSecret", .optional "webhookId",
    .optional "baseUrl"]),
  ("checkout", [.required "secretKey", .optional "webhookSecret", .optional "baseUrl"]),
  ("worldpay", [.required "username", .required "password", .required "entity",
    .optional "webhookSecret", .optional "signatureHeader", .optional "baseUrl"]),
  ("chargebee", [.required "site", .required "apiKey", .optional "webhookUser",
    .optional "webhookPassword", .optional "baseUrl"]),
  ("recurly", [.required "apiKey", .optional "webhookUser", .optional "webhookPassword",
    .optional "baseUrl"]),
  ("zuora", [.required "clientId", .required "clientSecret", .optional "webhookSecret",
    .optional "baseUrl"]),
  ("maxio", [.required "apiKey", .required "subdomain", .optional "webhookSecret",
    .optional "baseUrl"]),
  ("gocardless", [.required "accessToken", .required "webhookSecret",
    .choice "environment" "live" "sandbox", .optional "baseUrl"]),
  ("shopify", [.required "shop", .required "accessToken", .required "apiSecret",
    .optional "apiVersion", .optional "baseUrl"]),
  ("woocommerce", [.required "storeUrl", .required "consumerKey", .required "consumerSecret",
    .required "webhookSecret", .optional "baseUrl"]),
  ("bigcommerce", [.required "webhookSecret", .optional "storeHash", .optional "signatureHeader"]),
  ("kajabi", [.required "webhookSecret", .optional "signatureHeader"]),
  ("thrivecart", [.required "webhookSecret", .optional "secretHeader"]),
  ("samcart", [.required "webhookSecret", .optional "signatureHeader"])]

/-- Read a field. -/
def CredentialField.read (config : Value) : CredentialField → Except String (String × Option String)
  | .required key =>
    match credentialText config key with
    | some s => .ok (key, some s)
    | none => .error s!"adapter config: missing required string field '{key}'"
  | .optional key => .ok (key, credentialText config key)
  | .choice key value otherwise =>
    .ok (key, some (if credentialText config key = some value then value else otherwise))

/-- Build the adapter for a processor from a merchant's credentials. -/
def buildAdapter (processor merchantId : String) (config : Value) : Except String AdapterConfig :=
  match adapterFactories.lookup processor with
  | none => .error (s!"No webhook-capable adapter for processor '{processor}' " ++
      "(webhook routing unsupported).")
  | some fields => do
    let fields ← fields.mapM (CredentialField.read config)
    return { processor, merchantId, fields }

/-- The credentials have the same texts. -/
def SameTexts (config config' : Value) : Prop :=
  ∀ key, credentialText config key = credentialText config' key

theorem buildAdapter_congr {config config' : Value} (h : SameTexts config config')
    (processor merchantId : String) :
    buildAdapter processor merchantId config = buildAdapter processor merchantId config' := by
  have hread : CredentialField.read config = CredentialField.read config' := by
    funext field
    cases field with
    | required key => simp only [CredentialField.read, h key]
    | optional key => simp only [CredentialField.read, h key]
    | choice key value otherwise => simp only [CredentialField.read, h key]
  unfold buildAdapter
  rw [hread]

theorem lookup_eq_some_iff {α : Type} {l : List (String × α)} (h : (l.map Prod.fst).Nodup)
    {k : String} {a : α} : l.lookup k = some a ↔ (k, a) ∈ l := by
  induction l with
  | nil => simp
  | cons p l ih =>
    obtain ⟨k', a'⟩ := p
    rw [List.map_cons, List.nodup_cons] at h
    by_cases hk : k = k'
    · subst hk
      have hnot : (k, a) ∉ l := fun hmem => h.1 (List.mem_map.2 ⟨_, hmem, rfl⟩)
      simp [hnot, eq_comm]
    · rw [List.lookup_cons, beq_false_of_ne hk]
      simp [ih h.2, hk]

theorem nonEmptyText_eq_some {v : Option Value} {s : String} :
    nonEmptyText v = some s ↔ s ≠ "" ∧ v = some (.str s) := by
  unfold nonEmptyText
  split
  · next t =>
    by_cases ht : t = ""
    · rw [if_pos ht]
      constructor
      · exact fun h => absurd h (by simp)
      · rintro ⟨hs, heq⟩
        exact absurd ((Value.str.inj (Option.some.inj heq)).symm.trans ht) hs
    · rw [if_neg ht]
      constructor
      · intro h
        obtain rfl := Option.some.inj h
        exact ⟨ht, rfl⟩
      · rintro ⟨-, heq⟩
        rw [Value.str.inj (Option.some.inj heq)]
  · next hother =>
    constructor
    · exact fun h => absurd h (by simp)
    · rintro ⟨-, heq⟩
      exact absurd heq (hother s)

/-- A text of credentials is one of their properties. -/
theorem credentialText_eq_some {props : Props} (h : (props.map Prod.fst).Nodup) {key s : String} :
    credentialText (.obj props) key = some s ↔ s ≠ "" ∧ (key, .str s) ∈ props := by
  rw [credentialText, nonEmptyText_eq_some, property, lookup_eq_some_iff h]

theorem ofJson_eq_str {j : Json} {s : String} : ofJson j = .str s ↔ j = .str s := by
  cases j <;> simp [ofJson]

theorem rebuild_eq_str {f : Record → Record} {j : Json} {s : String} :
    rebuild f j = .str s ↔ j = .str s := by
  cases j <;> simp [rebuild]

theorem toJson_eq_str {v : Value} {s : String} : v.toJson = some (.str s) ↔ v = .str s := by
  cases v with
  | num x => cases x <;> simp [Value.toJson]
  | _ => simp [Value.toJson]

/-- Credentials that are printed and parsed keep their texts. -/
theorem sameTexts_parsed {props : Props} (h : (Value.obj props).Regular true) :
    SameTexts (ofJson (rebuild ownOrder (.obj (propsToJson props)))) (.obj props) := by
  have hnodup : (props.map Prod.fst).Nodup := h.1
  have hfields : ((propsToJson props).map Prod.fst).Nodup := by
    rw [propsToJson_eq]
    exact (present_keys_sublist _ _).nodup hnodup
  rw [rebuild_obj, ofJson]
  have hparsed : (propsOfJson (ownOrder (mapValues (rebuild ownOrder) (propsToJson props)))).map
      Prod.fst = (ownOrder (mapValues (rebuild ownOrder) (propsToJson props))).map Prod.fst := by
    rw [propsOfJson_eq]
    simp
  have hnodup' : ((propsOfJson (ownOrder (mapValues (rebuild ownOrder)
      (propsToJson props)))).map Prod.fst).Nodup := by
    rw [hparsed, ((ownOrder_perm _).map Prod.fst).nodup_iff, mapValues_keys]
    exact hfields
  intro key
  refine Option.ext fun s => ?_
  rw [credentialText_eq_some hnodup, credentialText_eq_some hnodup']
  refine and_congr_right fun _ => ?_
  rw [propsOfJson_eq, propsToJson_eq]
  constructor
  · intro hmem
    obtain ⟨⟨k, j⟩, hj, heq⟩ := List.mem_map.1 hmem
    obtain ⟨rfl, hstr⟩ := Prod.mk.inj heq
    obtain rfl := ofJson_eq_str.1 hstr
    obtain ⟨⟨k, j⟩, hj, heq⟩ := List.mem_map.1 ((ownOrder_perm _).mem_iff.1 hj)
    obtain ⟨rfl, hstr⟩ := Prod.mk.inj heq
    obtain rfl := rebuild_eq_str.1 hstr
    obtain ⟨⟨k, v⟩, hv, heq⟩ := List.mem_filterMap.1 hj
    obtain ⟨j, hvj, hkj⟩ := Option.map_eq_some_iff.1 heq
    obtain ⟨rfl, rfl⟩ := Prod.mk.inj hkj
    obtain rfl : v = .str s := toJson_eq_str.1 hvj
    exact hv
  · intro hmem
    refine List.mem_map.2 ⟨(key, .str s), (ownOrder_perm _).mem_iff.2 ?_, rfl⟩
    refine List.mem_map.2 ⟨(key, .str s), ?_, rfl⟩
    exact List.mem_filterMap.2 ⟨(key, .str s), hmem, rfl⟩

end AX10M
