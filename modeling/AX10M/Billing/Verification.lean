/-
  Signed documents verify, and edited ones do not.

  `signed_documents`: what is parsed of the text of a signed document verifies.  No document that
  differs from it verifies, unless the check is of the hash alone and the hash has been replaced
  too; of exports that differ in `__proto__` properties alone nothing is said.
-/
import AX10M.Billing.Documents

namespace AX10M

open Js

section

variable {K : Type} [Field K] {d : Doubles K} {V : Verifier} {publicKeyPem : String}
  {signer : Signer} {edited : Record}

/-- The verification of an export is that of its hash and its signature. -/
theorem verifyReconciliationSignature_eq {doc : Props} :
    verifyReconciliationSignature V doc publicKeyPem = ⟨true, true⟩ ↔
      hashMatches V.sha256 Reconciliation.stableStringify "statementHash" doc = true ∧
        (prop doc "signature").isTruthy = true ∧
        signatureVerifies V publicKeyPem "statementHash" doc = true := by
  rw [verifyReconciliationSignature, SignatureVerification.mk.injEq]
  simp only [Bool.and_eq_true]
  constructor
  · rintro ⟨hmatches, ⟨-, htruthy⟩, hverifies⟩
    exact ⟨hmatches, htruthy, hverifies⟩
  · rintro ⟨hmatches, htruthy, hverifies⟩
    exact ⟨hmatches, ⟨hmatches, htruthy⟩, hverifies⟩

/-- An export that has been built is the core of a result, signed. -/
theorem exported_sign [LinearOrder K] [FloorRing K] {ops : MathOps K} {now : String}
    {p : ReconciliationParams K} {e : ReconciliationExport K} (hsigner : p.signer = some signer)
    (h : buildReconciliationExport (exportContext V d ops now) p = .ok e) :
    ∃ core : ReconciliationCore K, e.props d = exportKind.sign V.sha256 signer (core.props d) ∧
      e.statementHash = exportKind.hash V.sha256 (core.props d) := by
  rw [buildReconciliationExport] at h
  cases hr : computeBillableUplift (exportContext V d ops now).ops p.observations p.effectiveConfig
      (p.priorBilledDollars.getD 0) with
  | error message =>
    rw [hr] at h
    cases h
  | ok r =>
    rw [hr] at h
    obtain rfl := Except.ok.inj h
    rw [hsigner]
    exact ⟨_, rfl, rfl⟩

theorem signStatement_props (ctx : StatementContext K) (s : BillableStatement K) :
    (signStatement (ctx.rendering V d) s).props d =
      statementKind.sign V.sha256 ctx.signer (s.props d) := rfl

theorem signAcceptance_props (d : Doubles ℚ) (r : AcceptanceRecord) :
    (signAcceptance V.sha256 d r signer).props d =
      acceptanceKind.sign V.sha256 signer (r.props d) := rfl

/-- What has been signed verifies after it has been parsed. -/
theorem reverified_sign {D : DocumentKind} {core : Props}
    (hsigner : SignsFor V publicKeyPem signer) (h : D.Content core) :
    Reverified (D.sign V.sha256 signer core) fun doc =>
      hashMatches V.sha256 D.text D.hashKey doc = true ∧ (prop doc "signature").isTruthy = true ∧
        signatureVerifies V publicKeyPem D.hashKey doc = true := by
  obtain ⟨text, parsed, htext, hparse, hmatches, hhash, hsignature⟩ :=
    DocumentKind.reverified V.sha256 h
  refine ⟨text, parsed, htext, hparse, hmatches, ?_, ?_⟩
  · rw [hsignature, Value.isTruthy]
    exact decide_eq_true (hsigner.nonempty _)
  · rw [signatureVerifies, hhash, hsignature]
    exact hsigner.verifies _

/-- What is parsed of the text of a signed document verifies.  Of an export, no document verifies
    that differs from it elsewhere than in `__proto__` properties; of a statement and of an
    acceptance, no document has a hash that matches and is the hash that was signed, or has a
    signature that is checked. -/
theorem signed_documents [LinearOrder K] [FloorRing K] (hinj : Function.Injective V.sha256)
    (hsigner : SignsFor V publicKeyPem signer) (d : Doubles K) (q : Doubles ℚ) :
    (∀ (ops : MathOps K) (now : String) (p : ReconciliationParams K) (e : ReconciliationExport K),
      p.signer = some signer → buildReconciliationExport (exportContext V d ops now) p = .ok e →
      Reverified (e.props d) (fun doc =>
        verifyReconciliationSignature V doc publicKeyPem = ⟨true, true⟩) ∧
      ∀ edited : Record, JsonValued (.obj edited) →
        SignatureOf V publicKeyPem signer e.statementHash
          (prop (propsOfJson edited) "signature") →
        ¬ SameDocument (fun j k => SameJson (dropProto j) (dropProto k)) "statementHash" edited
          (propsToJson (e.props d)) →
        verifyReconciliationSignature V (propsOfJson edited) publicKeyPem ≠ ⟨true, true⟩) ∧
    (∀ (ctx : StatementContext K) (s : BillableStatement K), ctx.signer = signer →
      let signed := signStatement (ctx.rendering V d) s
      Reverified (signed.props d) (fun doc => statementHashMatches V.sha256 doc = true ∧
        signatureVerifies V publicKeyPem "statementHash" doc = true) ∧
      ∀ edited : Record, JsonValued (.obj edited) →
        ¬ SameDocument SameJson "statementHash" edited (propsToJson (signed.props d)) →
        (edited.get "statementHash" = some (.str signed.statementHash) →
          statementHashMatches V.sha256 (propsOfJson edited) = false) ∧
        (SignatureOf V publicKeyPem signer signed.statementHash
            (prop (propsOfJson edited) "signature") →
          ¬ (statementHashMatches V.sha256 (propsOfJson edited) = true ∧
            signatureVerifies V publicKeyPem "statementHash" (propsOfJson edited) = true))) ∧
    ∀ r : AcceptanceRecord,
      let signed := signAcceptance V.sha256 q r signer
      Reverified (signed.props q) (fun doc => acceptanceHashMatches V.sha256 doc = true ∧
        signatureVerifies V publicKeyPem "recordHash" doc = true) ∧
      ∀ edited : Record, JsonValued (.obj edited) →
        ¬ SameDocument SameJson "recordHash" edited (propsToJson (signed.props q)) →
        (edited.get "recordHash" = some (.str signed.recordHash) →
          acceptanceHashMatches V.sha256 (propsOfJson edited) = false) ∧
        (SignatureOf V publicKeyPem signer signed.recordHash
            (prop (propsOfJson edited) "signature") →
          ¬ (acceptanceHashMatches V.sha256 (propsOfJson edited) = true ∧
            signatureVerifies V publicKeyPem "recordHash" (propsOfJson edited) = true)) := by
  refine ⟨?_, ?_, ?_⟩
  · intro ops now p e hp he
    obtain ⟨core, hprops, hhash⟩ := exported_sign hp he
    have hcontent := core_content core (d := d)
    rw [hprops, hhash]
    refine ⟨?_, ?_⟩
    · obtain ⟨text, parsed, htext, hparse, hverifies⟩ := reverified_sign hsigner hcontent
      exact ⟨text, parsed, htext, hparse, verifyReconciliationSignature_eq.2 hverifies⟩
    · intro edited hedited hsignature hdiffers hverified
      obtain ⟨hmatches, -, hverifies⟩ := verifyReconciliationSignature_eq.1 hverified
      exact hdiffers (DocumentKind.same_of_verified hinj hsigner hcontent hedited hsignature
        hmatches hverifies)
  · rintro ctx s rfl signed
    have hcontent := statement_content s (d := d)
    refine ⟨?_, fun edited hedited hdiffers => ⟨fun hkept => ?_, fun hsignature => ?_⟩⟩
    · obtain ⟨text, parsed, htext, hparse, hmatches, -, hverifies⟩ :=
        reverified_sign hsigner hcontent
      exact ⟨text, parsed, htext, hparse, hmatches, hverifies⟩
    · exact DocumentKind.hashMatches_eq_false hinj hcontent hedited hkept hdiffers
    · rintro ⟨hmatches, hverifies⟩
      exact hdiffers (DocumentKind.same_of_verified hinj hsigner hcontent hedited hsignature
        hmatches hverifies)
  · intro r signed
    have hcontent := acceptance_content q r
    refine ⟨?_, fun edited hedited hdiffers => ⟨fun hkept => ?_, fun hsignature => ?_⟩⟩
    · obtain ⟨text, parsed, htext, hparse, hmatches, -, hverifies⟩ :=
        reverified_sign hsigner hcontent
      exact ⟨text, parsed, htext, hparse, hmatches, hverifies⟩
    · exact DocumentKind.hashMatches_eq_false hinj hcontent hedited hkept hdiffers
    · rintro ⟨hmatches, hverifies⟩
      exact hdiffers (DocumentKind.same_of_verified hinj hsigner hcontent hedited hsignature
        hmatches hverifies)

end

/-! ## Edited documents -/

namespace Sample

/-- The messages themselves, marked, are the signatures. -/
def markingSigner : Signer := ⟨"key_1", fun m => "signed " ++ m⟩

def markingVerifier : Verifier where
  sha256 := unarySha256
  edVerify m _ signature :=
    match signature with
    | .str s => s = "signed " ++ m
    | _ => false

theorem markingSigner_signs (publicKeyPem : String) :
    SignsFor markingVerifier publicKeyPem markingSigner where
  verifies m := decide_eq_true rfl
  only m m' h := by
    have heq : "signed " ++ m = "signed " ++ m' := of_decide_eq_true h
    rw [← String.toList_inj, String.toList_append, String.toList_append,
      List.append_cancel_left_eq] at heq
    exact (String.toList_inj.1 heq).symm
  nonempty m h := by
    have hlist := congrArg String.toList h
    simp [markingSigner] at hlist

/-- Numbers that are finite decimals. -/
def decimals : Doubles ℚ where
  of x := if IsDecimal x then .fin x else .nan
  decimal x q h := by
    split_ifs at h with hx
    cases h
    exact hx

/-- The month of one recovered invoice, signed. -/
def signedMonth : ReconciliationParams ℚ := { allRecovered with signer := some markingSigner }

def signingContext : ReconciliationContext ℚ :=
  exportContext markingVerifier decimals monthOps "2026-08-01T00:00:00.000Z"

/-- A statement of no invoices. -/
def statementOf (period : String) : BillableStatement ℚ where
  merchantId := "mrc_1"
  period
  currency := "USD"
  result := settle (measure monthOps [] (defaultSequentialConfig ℚ)) (12 / 100) 0
  ledgerHead := genesisHash
  ledgerVerified := true
  generatedAt := "2026-08-01T00:00:00.000Z"

def statementContext : StatementContext ℚ where
  ops := monthOps
  config := defaultSequentialConfig ℚ
  sha256 := unarySha256
  render _ := ""
  signer := markingSigner
  ledgerHead := genesisHash
  ledgerVerified := true
  generatedAt := "2026-08-01T00:00:00.000Z"

def signedStatement (period : String) : SignedBillableStatement ℚ :=
  signStatement (statementContext.rendering markingVerifier decimals) (statementOf period)

/-- An acceptance without an address or a user agent. -/
def acceptanceOf (termsVersion : String) : AcceptanceRecord where
  accountId := "acct_1"
  merchantId := "mrc_1"
  termsVersion
  termsHash := "ab"
  feeSchedule := defaultFeeSchedule
  payerTrack := .invoice
  autoPayAuthorized := false
  acceptedBy := ⟨"Dana Lee", "CFO", "dana@merchant.com"⟩
  acceptedAt := "2026-08-16T12:00:00.000Z"

def signedAcceptance : SignedAcceptanceRecord :=
  signAcceptance unarySha256 decimals (acceptanceOf "v1") markingSigner

/-- The terms of the acceptance are others than those that were signed. -/
def alteredAcceptance : Record :=
  propsToJson (withSignature "recordHash" ((acceptanceOf "v2").props decimals)
    signedAcceptance.recordHash signedAcceptance.signature signedAcceptance.signingKeyId)

/-- The period of the statement and its hash are others than those that were signed. -/
def replacedStatement : Record :=
  propsToJson (withSignature "statementHash" ((statementOf "2026-08").props decimals)
    (signedStatement "2026-08").statementHash (signedStatement "2026-07").signature
    (signedStatement "2026-07").signingKeyId)

theorem alteredAcceptance_differs : ¬ SameDocument SameJson "recordHash" alteredAcceptance
    (propsToJson (signedAcceptance.props decimals)) := by
  rintro ⟨-, hcontent⟩
  have hleft : content "recordHash" alteredAcceptance = _ :=
    DocumentKind.content_withSignature (acceptance_content decimals (acceptanceOf "v2"))
  have hright : content "recordHash" (propsToJson (signedAcceptance.props decimals)) = _ :=
    DocumentKind.content_withSignature (acceptance_content decimals (acceptanceOf "v1"))
  rw [hleft, hright] at hcontent
  have hversion : ∀ v, ("termsVersion", Value.str v) ∈ (acceptanceOf v).props decimals :=
    fun _ => .tail _ (.tail _ (.head _))
  exact DocumentKind.not_sameJson_of_text (acceptance_content decimals (acceptanceOf "v1"))
    (hversion "v2") (hversion "v1") (by decide) hcontent

theorem replacedStatement_differs : ¬ SameDocument SameJson "statementHash" replacedStatement
    (propsToJson ((signedStatement "2026-07").props decimals)) := by
  rintro ⟨-, hcontent⟩
  have hleft : content "statementHash" replacedStatement = _ :=
    DocumentKind.content_withSignature (statement_content (statementOf "2026-08"))
  have hright : content "statementHash"
      (propsToJson ((signedStatement "2026-07").props decimals)) = _ :=
    DocumentKind.content_withSignature (statement_content (statementOf "2026-07"))
  rw [hleft, hright] at hcontent
  have hperiod : ∀ m, ("period", Value.str m) ∈ (statementOf m).props decimals :=
    fun _ => .tail _ (.head _)
  exact DocumentKind.not_sameJson_of_text (statement_content (statementOf "2026-07"))
    (hperiod "2026-08") (hperiod "2026-07") (by decide) hcontent

theorem replacedStatement_matches :
    statementHashMatches unarySha256 (propsOfJson replacedStatement) = true :=
  DocumentKind.hashMatches_of_content (D := statementKind)
    (statement_content (d := decimals) (statementOf "2026-08"))
    (DocumentKind.jsonValued_withSignature (statement_content (statementOf "2026-08")))
    (DocumentKind.get_hash (statement_content (statementOf "2026-08")))
    (by
      have hcontent : content "statementHash" replacedStatement = _ :=
        DocumentKind.content_withSignature (statement_content (statementOf "2026-08"))
      show SameJson (.obj (content "statementHash" replacedStatement)) _
      rw [hcontent])

/-- The export with a property that assigning loses. -/
def withProto (e : ReconciliationExport ℚ) : Record :=
  propsToJson (e.props decimals) ++ [("__proto__", .obj [("fee", .num 0)])]

theorem content_withProto (e : ReconciliationExport ℚ) : content "statementHash" (withProto e) =
    content "statementHash" (propsToJson (e.props decimals)) ++
      [("__proto__", .obj [("fee", .num 0)])] := by
  rw [withProto, content, List.filter_append]
  rfl

theorem withProto_jsonValued {e : ReconciliationExport ℚ}
    (h : buildReconciliationExport signingContext signedMonth = .ok e) :
    JsonValued (.obj (withProto e)) := by
  obtain ⟨core, hprops, -⟩ := exported_sign (d := decimals) rfl h
  have hvalued : JsonValued (.obj (propsToJson (e.props decimals))) := by
    rw [hprops]
    exact DocumentKind.jsonValued_withSignature (core_content core)
  have hd := hvalued.distinct
  have hn := hvalued.decimal
  have hzero : IsDecimal 0 := by decide
  rw [DistinctKeys, distinctKeysFields_iff] at hd
  rw [AllDecimal, allDecimalFields_iff] at hn
  refine ⟨?_, ?_⟩
  · rw [DistinctKeys, distinctKeysFields_iff, withProto, List.map_append, List.forall_mem_append]
    refine ⟨List.nodup_append.2 ⟨hd.1, by simp, ?_⟩, hd.2, ?_⟩
    · rintro key hkey key' hproto rfl
      obtain rfl : key = "__proto__" := List.mem_singleton.1 hproto
      rw [propsToJson_eq] at hkey
      have hmem := (present_keys_sublist Value.toJson (e.props decimals)).subset hkey
      have hnot : "__proto__" ∉ (e.props decimals).map Prod.fst := by
        show "__proto__" ∉ ["merchantId", "period", "currency", "summary", "fee", "epoch",
          "recoveredTransactions", "ledgerHead", "ledgerVerified", "generatedAt", "statementHash",
          "signature", "signingKeyId"]
        decide
      exact hnot hmem
    · simp [DistinctKeys, DistinctKeysFields]
  · rw [AllDecimal, allDecimalFields_iff, withProto, List.forall_mem_append]
    refine ⟨hn, ?_⟩
    simp [AllDecimal, AllDecimalFields, hzero]

theorem dropProto_append (fields : Record) (v : Json) :
    dropProto (.obj (fields ++ [("__proto__", v)])) = dropProto (.obj fields) := by
  rw [dropProto, dropProto, rebuild_obj, rebuild_obj, mapValues, mapValues, List.map_append,
    List.filter_append]
  simp

/-- An export that a `__proto__` property is added to verifies. -/
theorem withProto_verifies {e : ReconciliationExport ℚ}
    (h : buildReconciliationExport signingContext signedMonth = .ok e) :
    verifyReconciliationSignature markingVerifier (propsOfJson (withProto e)) "pem" =
      ⟨true, true⟩ := by
  obtain ⟨core, hprops, -⟩ := exported_sign (d := decimals) rfl h
  have hcontent := core_content core (d := decimals)
  have hkept : ∀ key s, Record.get (propsToJson (e.props decimals)) key = some (.str s) →
      prop (propsOfJson (withProto e)) key = .str s := by
    intro key s hget
    rw [prop_propsOfJson_str, withProto, Record.get_append, hget]
    rfl
  have hhash := hkept "statementHash" (exportKind.hash unarySha256 (core.props decimals)) (by
    rw [hprops]
    exact DocumentKind.get_hash hcontent)
  have hsignature := hkept "signature"
    (markingSigner.sign (exportKind.hash unarySha256 (core.props decimals))) (by
      rw [hprops]
      exact DocumentKind.get_signature hcontent)
  refine verifyReconciliationSignature_eq.2 ⟨?_, ?_, ?_⟩
  · refine DocumentKind.hashMatches_of_content (D := exportKind) hcontent (withProto_jsonValued h)
      (prop_propsOfJson_str.1 hhash) ?_
    show SameJson (dropProto (.obj (content "statementHash" (withProto e)))) _
    have hsigned : content "statementHash" (propsToJson (e.props decimals)) =
        propsToJson (core.props decimals) := by
      rw [hprops]
      exact DocumentKind.content_withSignature hcontent
    rw [content_withProto, hsigned, dropProto_append]
  · have hnonempty := (markingSigner_signs "pem").nonempty
      (exportKind.hash unarySha256 (core.props decimals))
    rw [hsignature, Value.isTruthy]
    exact decide_eq_true hnonempty
  · rw [signatureVerifies, hhash, hsignature]
    exact (markingSigner_signs "pem").verifies _

theorem withProto_differs (e : ReconciliationExport ℚ) :
    ¬ SameDocument SameJson "statementHash" (withProto e) (propsToJson (e.props decimals)) := by
  rintro ⟨-, hcontent⟩
  have hlength := hcontent.length_eq
  rw [content_withProto, List.length_append, List.length_singleton] at hlength
  omega

theorem signedMonth_exported :
    ∃ e, buildReconciliationExport signingContext signedMonth = .ok e :=
  ⟨_, buildReconciliationExport_of_admitted (month_admitted allRecovered.outcomes)⟩

end Sample

/-- A month and a statement that verify after they have been parsed, and an altered acceptance that
    does not. -/
theorem signed_documents_sample :
    (∃ e, buildReconciliationExport Sample.signingContext Sample.signedMonth = .ok e ∧
      Reverified (e.props Sample.decimals) fun doc =>
        verifyReconciliationSignature Sample.markingVerifier doc "pem" = ⟨true, true⟩) ∧
    Reverified ((Sample.signedStatement "2026-07").props Sample.decimals) (fun doc =>
      statementHashMatches Sample.unarySha256 doc = true ∧
        signatureVerifies Sample.markingVerifier "pem" "statementHash" doc = true) ∧
    acceptanceHashMatches Sample.unarySha256 (propsOfJson Sample.alteredAcceptance) = false := by
  obtain ⟨hexport, hstatement, hacceptance⟩ := signed_documents
    Sample.unarySha256_injective (Sample.markingSigner_signs "pem") Sample.decimals Sample.decimals
  obtain ⟨e, he⟩ := Sample.signedMonth_exported
  refine ⟨⟨e, he, (hexport _ _ _ e rfl he).1⟩, (hstatement Sample.statementContext _ rfl).1, ?_⟩
  exact ((hacceptance (Sample.acceptanceOf "v1")).2 Sample.alteredAcceptance
    (DocumentKind.jsonValued_withSignature (acceptance_content _ _))
    Sample.alteredAcceptance_differs).1 (DocumentKind.get_hash (acceptance_content _ _))

/-- A statement whose period and hash have both been replaced has a hash that matches.  An export
    that a `__proto__` property has been added to verifies. -/
theorem signed_documents_fails :
    Function.Injective Sample.markingVerifier.sha256 ∧
    SignsFor Sample.markingVerifier "pem" Sample.markingSigner ∧
    (JsonValued (.obj Sample.replacedStatement) ∧
      Sample.replacedStatement.get "signature" =
        some (.str (Sample.signedStatement "2026-07").signature) ∧
      ¬ SameDocument SameJson "statementHash" Sample.replacedStatement
        (propsToJson ((Sample.signedStatement "2026-07").props Sample.decimals)) ∧
      statementHashMatches Sample.unarySha256 (propsOfJson Sample.replacedStatement) = true) ∧
    ∃ e, buildReconciliationExport Sample.signingContext Sample.signedMonth = .ok e ∧
      JsonValued (.obj (Sample.withProto e)) ∧
      ¬ SameDocument SameJson "statementHash" (Sample.withProto e)
        (propsToJson (e.props Sample.decimals)) ∧
      verifyReconciliationSignature Sample.markingVerifier (propsOfJson (Sample.withProto e))
        "pem" = ⟨true, true⟩ := by
  obtain ⟨e, he⟩ := Sample.signedMonth_exported
  refine ⟨Sample.unarySha256_injective, Sample.markingSigner_signs "pem",
    ⟨DocumentKind.jsonValued_withSignature (statement_content _),
      DocumentKind.get_signature (statement_content _), Sample.replacedStatement_differs,
      Sample.replacedStatement_matches⟩,
    e, he, Sample.withProto_jsonValued he, Sample.withProto_differs e,
    Sample.withProto_verifies he⟩

end AX10M
