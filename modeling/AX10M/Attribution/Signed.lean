/-
  Documents that are hashed without their signing fields, and whose hash is signed.

  `reverified`: a document that is signed, printed and parsed has the hash of its content.
  `content_of_hashMatches`: a document with that hash has that content, as far as the canonical
  text says.
-/
import AX10M.Attribution.StableStringify
import AX10M.Billing.Statement

namespace AX10M

open Js

/-! ## Signing -/

/-- The value of a property. -/
def prop (doc : Props) (key : String) : Value := (doc.lookup key).getD .undefined

/-- The signing fields of a kind of document. -/
def signingFields (hashKey : String) : List String := [hashKey, "signature", "signingKeyId"]

/-- A document without its signing fields. -/
def content {α : Type} (hashKey : String) (doc : List (String × α)) : List (String × α) :=
  doc.filter fun p => p.1 ∉ signingFields hashKey

/-- The hash of a text. -/
def hashText (sha256 : Digest) (text : Option String) : String := sha256 (text.getD "")

/-- A document with a hash and a signature. -/
def withSignature (hashKey : String) (core : Props) (hash signature keyId : String) : Props :=
  core ++ [(hashKey, .str hash), ("signature", .str signature), ("signingKeyId", .str keyId)]

/-- The hash of a document is that of its content. -/
def hashMatches (sha256 : Digest) (text : Value → Option String) (hashKey : String)
    (doc : Props) : Bool :=
  match prop doc hashKey with
  | .str hash => hash = hashText sha256 (text (.obj (content hashKey doc)))
  | _ => false

/-- What documents are verified with: the digest, and the check of a signature of a message under a
    public key, which fails where it throws. -/
structure Verifier where
  sha256 : Digest
  edVerify : String → String → Value → Bool

/-- The signature of a document is one of its hash. -/
def signatureVerifies (V : Verifier) (publicKeyPem : String) (hashKey : String) (doc : Props) :
    Bool :=
  match prop doc hashKey with
  | .str hash => V.edVerify hash publicKeyPem (prop doc "signature")
  | _ => false

/-- What a signer signs verifies under its public key, and as no other message. -/
structure SignsFor (V : Verifier) (publicKeyPem : String) (signer : Signer) : Prop where
  verifies : ∀ m, V.edVerify m publicKeyPem (.str (signer.sign m)) = true
  only : ∀ m m', V.edVerify m' publicKeyPem (.str (signer.sign m)) = true → m' = m
  nonempty : ∀ m, signer.sign m ≠ ""

/-- The signature is the one of a message, or none of any. -/
def SignatureOf (V : Verifier) (publicKeyPem : String) (signer : Signer) (message : String)
    (signature : Value) : Prop :=
  signature = .str (signer.sign message) ∨ ∀ m, V.edVerify m publicKeyPem signature = false

/-- The document is printed, and what is parsed of the text is accepted. -/
def Reverified (doc : Props) (accepted : Props → Prop) : Prop :=
  ∃ text parsed, jsonStringify (.obj doc) = some text ∧ parse text = some (.obj parsed) ∧
    accepted (propsOfJson parsed)

/-- The documents have one hash and related contents. -/
structure SameDocument (R : Json → Json → Prop) (hashKey : String) (doc doc' : Record) : Prop where
  hash : doc.get hashKey = doc'.get hashKey
  content : R (.obj (content hashKey doc)) (.obj (content hashKey doc'))

/-! ## Properties of what is parsed -/

section

variable {fields : Record} {key : String} {hashKey : String}

theorem prop_propsOfJson :
    prop (propsOfJson fields) key = ((fields.get key).map ofJson).getD .undefined := by
  induction fields with
  | nil => rfl
  | cons p fields ih =>
    obtain ⟨k, v⟩ := p
    rw [prop] at ih ⊢
    rw [propsOfJson, Record.get_cons, List.lookup_cons]
    by_cases hk : key = k
    · simp [hk]
    · have hb : (key == k) = false := beq_false_of_ne hk
      simp [hk, hb, ih]

theorem prop_propsOfJson_str {s : String} :
    prop (propsOfJson fields) key = .str s ↔ fields.get key = some (.str s) := by
  rw [prop_propsOfJson]
  cases fields.get key with
  | none => simp
  | some j => cases j <;> simp [ofJson]

theorem content_propsOfJson :
    content hashKey (propsOfJson fields) = propsOfJson (content hashKey fields) := by
  rw [propsOfJson_eq, propsOfJson_eq, content, content, List.filter_map]
  rfl

/-- A property is the one that is found under its key. -/
theorem get_of_mem (hd : (fields.map Prod.fst).Nodup) {v : Json} (h : (key, v) ∈ fields) :
    fields.get key = some v := by
  induction fields with
  | nil => cases h
  | cons p fields ih =>
    obtain ⟨k, w⟩ := p
    rw [List.map_cons, List.nodup_cons] at hd
    rw [Record.get_cons]
    rcases List.mem_cons.1 h with heq | hmem
    · cases heq
      rw [if_pos rfl]
    · have hk : key ≠ k := by
        rintro rfl
        exact hd.1 (List.mem_map.2 ⟨_, hmem, rfl⟩)
      rw [if_neg hk]
      exact ih hd.2 hmem

theorem jsonValued_content (h : JsonValued (.obj fields)) :
    JsonValued (.obj (content hashKey fields)) := by
  have hd := h.distinct
  have hn := h.decimal
  rw [DistinctKeys, distinctKeysFields_iff] at hd
  rw [AllDecimal, allDecimalFields_iff] at hn
  refine ⟨?_, ?_⟩
  · rw [DistinctKeys, distinctKeysFields_iff]
    exact ⟨hd.1.sublist (List.filter_sublist.map _), fun p hp => hd.2 p (List.mem_filter.1 hp).1⟩
  · rw [AllDecimal, allDecimalFields_iff]
    exact fun p hp => hn p (List.mem_filter.1 hp).1

/-- Enumerating the properties leaves the value the same. -/
theorem sameJson_ownOrder {j : Json} (h : JsonValued j) : SameJson (rebuild ownOrder j) j := by
  rw [SameJson, normal, normal, rebuild_rebuild onKeys_ownOrder]
  refine rebuild_congr (fun fields hd => ?_) j h.distinct
  exact (sortFields_congr (ownOrder_perm fields).symm hd).symm

end

/-! ## Kinds of documents -/

/-- A kind of signed document: where its hash is, and its canonical text, which tells contents
    apart up to a relation that the order of keys does not matter to. -/
structure DocumentKind where
  hashKey : String
  text : Value → Option String
  optional : Bool
  R : Json → Json → Prop
  hashKey_ne : hashKey ∉ ["signature", "signingKeyId"]
  canonical : CanonicalText text optional R
  of_same : ∀ {j k}, SameJson j k → R j k

namespace DocumentKind

variable (D : DocumentKind) {V : Verifier} {signer : Signer} {core : Props} {edited : Record}

/-- The hash of a document of the kind. -/
def hash (sha256 : Digest) (core : Props) : String := hashText sha256 (D.text (.obj core))

/-- The content of a document can be read from its text, and has none of the signing fields. -/
structure Content (core : Props) : Prop where
  regular : (Value.obj core).Regular D.optional
  unsigned : ∀ key ∈ core.map Prod.fst, key ∉ signingFields D.hashKey

/-- The document with its hash, and the hash signed. -/
def sign (sha256 : Digest) (signer : Signer) (core : Props) : Props :=
  withSignature D.hashKey core (D.hash sha256 core) (signer.sign (D.hash sha256 core)) signer.keyId

variable {D} {h s k : String}

theorem withSignature_regular (hcore : D.Content core) :
    (Value.obj (withSignature D.hashKey core h s k)).Regular D.optional := by
  have hregular := hcore.regular
  have hne := D.hashKey_ne
  rw [Value.Regular] at hregular ⊢
  rw [withSignature, List.map_append, regularProps_append]
  refine ⟨List.nodup_append.2 ⟨hregular.1, ?_, ?_⟩, hregular.2, ?_⟩
  · simp only [List.mem_cons, List.not_mem_nil, or_false, not_or] at hne
    simp [hne]
  · intro key hkey key' hkey' heq
    exact hcore.unsigned key hkey (heq ▸ hkey')
  · simp [RegularProps]

theorem propsToJson_withSignature {hashKey : String} :
    propsToJson (withSignature hashKey core h s k) = propsToJson core ++
      [(hashKey, .str h), ("signature", .str s), ("signingKeyId", .str k)] := by
  rw [propsToJson_eq, propsToJson_eq, withSignature, present, List.filterMap_append]
  rfl

theorem jsonValued_withSignature (hcore : D.Content core) :
    JsonValued (.obj (propsToJson (withSignature D.hashKey core h s k))) :=
  (withSignature_regular hcore).jsonValued (by rw [Value.toJson])

/-- Without the signing fields, a document is its content. -/
theorem content_withSignature (hcore : D.Content core) :
    content D.hashKey (propsToJson (withSignature D.hashKey core h s k)) = propsToJson core := by
  rw [propsToJson_withSignature, content, List.filter_append, List.filter_eq_self.2,
    List.filter_eq_nil_iff.2, List.append_nil]
  · simp [signingFields]
  · intro p hp
    have hkey := (present_keys_sublist Value.toJson core).subset
      (List.mem_map.2 ⟨p, propsToJson_eq core ▸ hp, rfl⟩)
    exact decide_eq_true (hcore.unsigned p.1 hkey)

theorem get_hash (hcore : D.Content core) :
    Record.get (propsToJson (withSignature D.hashKey core h s k)) D.hashKey = some (.str h) := by
  have hdistinct := (jsonValued_withSignature (h := h) (s := s) (k := k) hcore).distinct
  rw [DistinctKeys] at hdistinct
  exact get_of_mem hdistinct.1 (by simp [propsToJson_withSignature])

theorem get_signature (hcore : D.Content core) :
    Record.get (propsToJson (withSignature D.hashKey core h s k)) "signature" =
      some (.str s) := by
  have hdistinct := (jsonValued_withSignature (h := h) (s := s) (k := k) hcore).distinct
  rw [DistinctKeys] at hdistinct
  exact get_of_mem hdistinct.1 (by simp [propsToJson_withSignature])

/-- The texts of a content and of what has been parsed are equal if they are related. -/
theorem text_content_iff (h : D.Content core) (hedited : JsonValued (.obj edited)) :
    D.text (.obj (content D.hashKey (propsOfJson edited))) = D.text (.obj core) ↔
      D.R (.obj (content D.hashKey edited)) (.obj (propsToJson core)) := by
  have hcontent : Value.obj (content D.hashKey (propsOfJson edited)) =
      ofJson (.obj (content D.hashKey edited)) := by rw [content_propsOfJson, ofJson]
  rw [hcontent]
  exact D.canonical.eq_iff (regular_ofJson _ (jsonValued_content hedited)) h.regular
    (toJson_ofJson _) (by rw [Value.toJson])

/-- A document that has the hash of a related content has a hash that matches. -/
theorem hashMatches_of_content {sha256 : Digest} (h : D.Content core)
    (hedited : JsonValued (.obj edited))
    (hhash : edited.get D.hashKey = some (.str (D.hash sha256 core)))
    (hcontent : D.R (.obj (content D.hashKey edited)) (.obj (propsToJson core))) :
    hashMatches sha256 D.text D.hashKey (propsOfJson edited) = true := by
  simp only [hashMatches, prop_propsOfJson_str.2 hhash, (text_content_iff h hedited).2 hcontent,
    hash, decide_true]

/-- A document whose hash matches and is that of another one has its content. -/
theorem content_of_hashMatches (hinj : Function.Injective V.sha256) (h : D.Content core)
    (hedited : JsonValued (.obj edited))
    (hhash : edited.get D.hashKey = some (.str (D.hash V.sha256 core)))
    (hmatches : hashMatches V.sha256 D.text D.hashKey (propsOfJson edited) = true) :
    D.R (.obj (content D.hashKey edited)) (.obj (propsToJson core)) := by
  have hcontent : Value.obj (content D.hashKey (propsOfJson edited)) =
      ofJson (.obj (content D.hashKey edited)) := by rw [content_propsOfJson, ofJson]
  obtain ⟨t, ht⟩ := D.canonical.defined
    (regular_ofJson (.obj (content D.hashKey edited)) (jsonValued_content hedited))
    (toJson_ofJson _)
  obtain ⟨t', ht'⟩ := D.canonical.defined h.regular (by rw [Value.toJson])
  rw [← hcontent] at ht
  simp only [hashMatches, prop_propsOfJson_str.2 hhash, hash, ht, ht', decide_eq_true_eq]
    at hmatches
  have htext : t' = t := hinj hmatches
  rw [← text_content_iff h hedited, ht, ht', htext]

/-- Contents are not the same if a text in them differs. -/
theorem not_sameJson_of_text {core' : Props} (hcore' : D.Content core') {key t t' : String}
    (ht : (key, .str t) ∈ core) (ht' : (key, .str t') ∈ core') (hne : t ≠ t') :
    ¬ SameJson (.obj (propsToJson core)) (.obj (propsToJson core')) := by
  intro hsame
  have hprinted : ∀ {props : Props} {t : String}, (key, .str t) ∈ props →
      (key, Json.str t) ∈ propsToJson props := by
    intro props t hmem
    rw [propsToJson_eq]
    exact List.mem_filterMap.2 ⟨_, hmem, rfl⟩
  have hdistinct := (hcore'.regular.jsonValued (by rw [Value.toJson])).distinct
  rw [DistinctKeys] at hdistinct
  have hget := get_of_mem hdistinct.1 (hsame.mem_str (hprinted ht))
  rw [get_of_mem hdistinct.1 (hprinted ht')] at hget
  exact hne (Json.str.inj (Option.some.inj hget)).symm

/-- What is parsed of the text of a document has the hash of its content, and the signature. -/
theorem reverified (sha256 : Digest) (hcore : D.Content core) :
    Reverified (withSignature D.hashKey core (D.hash sha256 core) s k) fun doc =>
      hashMatches sha256 D.text D.hashKey doc = true ∧
        prop doc D.hashKey = .str (D.hash sha256 core) ∧ prop doc "signature" = .str s := by
  have hjson : (Value.obj (withSignature D.hashKey core (D.hash sha256 core) s k)).toJson =
      some (.obj (propsToJson (withSignature D.hashKey core (D.hash sha256 core) s k))) := by
    rw [Value.toJson]
  obtain ⟨text, htext, hparse⟩ := parse_jsonStringify (withSignature_regular hcore) hjson
  have hvalued := (jsonValued_withSignature (h := D.hash sha256 core) (s := s) (k := k)
    hcore).rebuild ownOrder_perm
  rw [rebuild_obj] at hparse hvalued
  refine ⟨text, _, htext, hparse, ?_⟩
  have hdistinct := hvalued.distinct
  rw [DistinctKeys] at hdistinct
  -- what is signed is found among the properties that have been parsed
  have hget : ∀ key t,
      (key, Json.str t) ∈ propsToJson (withSignature D.hashKey core (D.hash sha256 core) s k) →
      Record.get (ownOrder (mapValues (rebuild ownOrder)
        (propsToJson (withSignature D.hashKey core (D.hash sha256 core) s k)))) key =
        some (.str t) := by
    intro key t hmem
    refine get_of_mem hdistinct.1 ((ownOrder_perm _).mem_iff.2 (List.mem_map.2 ⟨_, hmem, ?_⟩))
    rw [Prod.map_apply, rebuild, id]
  have hhash := hget D.hashKey (D.hash sha256 core) (by simp [propsToJson_withSignature])
  have hsignature := hget "signature" s (by simp [propsToJson_withSignature])
  -- and the others are those of the content
  have hcontent : content D.hashKey (ownOrder (mapValues (rebuild ownOrder)
      (propsToJson (withSignature D.hashKey core (D.hash sha256 core) s k)))) =
      ownOrder (mapValues (rebuild ownOrder) (propsToJson core)) := by
    have hfilter := onKeys_filter (fun key => decide (key ∉ signingFields D.hashKey))
      (rebuild ownOrder) (propsToJson (withSignature D.hashKey core (D.hash sha256 core) s k))
    simp only at hfilter
    rw [content, filter_ownOrder, hfilter, ← content, content_withSignature hcore]
  refine ⟨hashMatches_of_content hcore hvalued hhash ?_, prop_propsOfJson_str.2 hhash,
    prop_propsOfJson_str.2 hsignature⟩
  rw [hcontent, ← rebuild_obj]
  exact D.of_same (sameJson_ownOrder (hcore.regular.jsonValued (by rw [Value.toJson])))

/-- A document whose hash matches and is signed is the one that has been signed, if its signature
    is the one of that document or none at all. -/
theorem same_of_verified (hinj : Function.Injective V.sha256) {publicKeyPem : String}
    (hsigner : SignsFor V publicKeyPem signer) (h : D.Content core)
    (hedited : JsonValued (.obj edited))
    (hsignature : SignatureOf V publicKeyPem signer (D.hash V.sha256 core)
      (prop (propsOfJson edited) "signature"))
    (hmatches : hashMatches V.sha256 D.text D.hashKey (propsOfJson edited) = true)
    (hverifies : signatureVerifies V publicKeyPem D.hashKey (propsOfJson edited) = true) :
    SameDocument D.R D.hashKey edited (propsToJson (D.sign V.sha256 signer core)) := by
  have hhash : edited.get D.hashKey = some (.str (D.hash V.sha256 core)) := by
    rw [← prop_propsOfJson_str]
    unfold signatureVerifies at hverifies
    split at hverifies
    · next m hm =>
      rcases hsignature with hsame | hnone
      · rw [hsame] at hverifies
        rw [hm, hsigner.only _ _ hverifies]
      · rw [hnone m] at hverifies
        cases hverifies
    · cases hverifies
  refine ⟨hhash.trans (get_hash h).symm, ?_⟩
  rw [sign, content_withSignature h]
  exact content_of_hashMatches hinj h hedited hhash hmatches

/-- An edit that keeps the hash is found by the hash alone. -/
theorem hashMatches_eq_false (hinj : Function.Injective V.sha256) (h : D.Content core)
    (hedited : JsonValued (.obj edited))
    (hhash : edited.get D.hashKey = some (.str (D.hash V.sha256 core)))
    (hdiffers : ¬ SameDocument D.R D.hashKey edited
      (propsToJson (D.sign V.sha256 signer core))) :
    hashMatches V.sha256 D.text D.hashKey (propsOfJson edited) = false := by
  rw [Bool.eq_false_iff]
  intro hmatches
  refine hdiffers ⟨hhash.trans (get_hash h).symm, ?_⟩
  rw [sign, content_withSignature h]
  exact content_of_hashMatches hinj h hedited hhash hmatches

end DocumentKind

end AX10M
