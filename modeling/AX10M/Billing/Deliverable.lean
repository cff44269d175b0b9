/-
  Which invoices can be delivered (`billing/invoice-delivery.service.ts`; `@ax10m/comms`,
  `sender.ts`).

  The transport refuses a mail with a card number anywhere in it.  The parts of an invoice mail are
  kept apart by texts that no number reaches over, and dates, months, digests and purchase orders
  have none, so that it comes down to the legal name, the invoice number, the amounts and the
  terms (`deliverable_iff`).
-/
import AX10M.Billing.Account
import AX10M.Billing.Delivery
import AX10M.Js.Fixed
import Mathlib.Data.List.TakeWhile

namespace AX10M

open Js

/-! ## The texts of a mail -/

/-- The parts of the subject. -/
def subjectParts (invoice : BillingInvoice) : InvoiceDunningStage → List (String × String) × String
  | .issued => ([("AX10M", " invoice "), (invoice.invoiceNumber, " — "),
      (dollars invoice.currency invoice.totalDueMinor, " due ")], slice invoice.dueAt 10)
  | .dueSoon => ([("Reminder: AX10M", " invoice "), (invoice.invoiceNumber, " due ")],
      slice invoice.dueAt 10)
  | .dueToday => ([("AX10M", " invoice "), (invoice.invoiceNumber, " is due ")], "today")
  | .overdue1 | .overdue2 => ([("Past due: AX10M", " invoice ")], invoice.invoiceNumber)
  | .finalNotice => ([("Final notice: AX10M", " invoice ")], invoice.invoiceNumber)

theorem invoiceSubject_eq (invoice : BillingInvoice) (stage : InvoiceDunningStage) :
    invoiceSubject invoice stage =
      interleave (subjectParts invoice stage).1 (subjectParts invoice stage).2 := by
  have hinvoice : "AX10M invoice " = "AX10M" ++ " invoice " := by simp
  cases stage with
  | issued =>
    unfold invoiceSubject subjectParts
    simp only [interleave, String.append_assoc]
    rw [hinvoice, String.append_assoc]
  | dueSoon =>
    have hsoon : "Reminder: AX10M invoice " = "Reminder: AX10M" ++ " invoice " := by simp
    unfold invoiceSubject subjectParts
    simp only [interleave, String.append_assoc]
    rw [hsoon, String.append_assoc]
  | dueToday =>
    have htoday : " is due today" = " is due " ++ "today" := by simp
    unfold invoiceSubject subjectParts
    simp only [interleave, String.append_assoc]
    rw [hinvoice, htoday, String.append_assoc]
  | overdue1 | overdue2 =>
    have hpast : "Past due: AX10M invoice " = "Past due: AX10M" ++ " invoice " := by simp
    unfold invoiceSubject subjectParts
    simp only [interleave]
    rw [hpast, String.append_assoc]
  | finalNotice =>
    have hfinal : "Final notice: AX10M invoice " = "Final notice: AX10M" ++ " invoice " := by simp
    unfold invoiceSubject subjectParts
    simp only [interleave]
    rw [hfinal, String.append_assoc]

/-- The parts of the first line. -/
def introParts (invoice : BillingInvoice) : InvoiceDunningStage → List (String × String)
  | .issued => [("Your AX10M recovery-uplift invoice", " for "), (invoice.period, " is ready.")]
  | .dueSoon => [("A reminder that your AX10M invoice", " for "), (invoice.period, " is due soon.")]
  | .dueToday => [("Your AX10M invoice", " for "), (invoice.period, " is due today.")]
  | .overdue1 | .overdue2 => [("Your AX10M invoice", " for "),
      (invoice.period, " is past due. A finance charge of "),
      ("1.5", "%/month is now accruing on the overdue balance.")]
  | .finalNotice => [("This is a final notice: your AX10M invoice", " for "),
      (invoice.period, " remains unpaid and is significantly past due. Please remit payment or " ++
        "contact us to resolve.")]

theorem invoiceIntro_eq (invoice : BillingInvoice) (stage : InvoiceDunningStage) :
    invoiceIntro invoice stage = interleave (introParts invoice stage) "" := by
  have hyour : "Your AX10M invoice for " = "Your AX10M invoice" ++ " for " := by simp
  cases stage with
  | issued =>
    have hissued : "Your AX10M recovery-uplift invoice for " =
      "Your AX10M recovery-uplift invoice" ++ " for " := by simp
    unfold invoiceIntro introParts
    simp only [interleave, String.append_assoc, String.append_empty]
    rw [hissued, String.append_assoc]
  | dueSoon =>
    have hsoon : "A reminder that your AX10M invoice for " =
      "A reminder that your AX10M invoice" ++ " for " := by simp
    unfold invoiceIntro introParts
    simp only [interleave, String.append_assoc, String.append_empty]
    rw [hsoon, String.append_assoc]
  | dueToday =>
    unfold invoiceIntro introParts
    simp only [interleave, String.append_assoc, String.append_empty]
    rw [hyour, String.append_assoc]
  | overdue1 | overdue2 =>
    have hpast : " is past due. A finance charge of 1.5%/month is now accruing on the overdue " ++
        "balance." = " is past due. A finance charge of " ++ ("1.5" ++
          "%/month is now accruing on the overdue balance.") := by simp
    unfold invoiceIntro introParts
    simp only [interleave, String.append_assoc, String.append_empty]
    rw [hyour, hpast, String.append_assoc]
  | finalNotice =>
    have hfinal : "This is a final notice: your AX10M invoice for " =
      "This is a final notice: your AX10M invoice" ++ " for " := by simp
    unfold invoiceIntro introParts
    simp only [interleave, String.append_assoc, String.append_empty]
    rw [hfinal, String.append_assoc]

/-- The parts of the amount. -/
def amountParts (invoice : BillingInvoice) : List (String × String) :=
  let total := dollars invoice.currency invoice.totalDueMinor
  if invoice.financeChargeMinor > 0 then
    [(total, "\nLate finance charge included: "),
      (dollars invoice.currency invoice.financeChargeMinor, " ("),
      ("1.5", "%/mo on the overdue balance)\nDue date:     ")]
  else [(total, "\nDue date:     ")]

/-- The parts of the terms and the purchase order. -/
def termsParts (invoice : BillingInvoice) : List (String × String) :=
  let terms := toString invoice.feeScheduleSnapshot.paymentTermsDays
  if invoice.poNumber.getD "" = "" then [(terms, ")\nRemit to:     ")]
  else [(terms, ")\nPO number: "), (invoice.poNumber.getD "", "\nRemit to:     ")]

theorem amountParts_eq (invoice : BillingInvoice) (rest : String) :
    interleave (amountParts invoice) rest =
      dollars invoice.currency invoice.totalDueMinor ++
        (financeLine invoice ++ ("\nDue date:     " ++ rest)) := by
  unfold amountParts financeLine
  by_cases hcharge : invoice.financeChargeMinor > 0
  · have hend : "%/mo on the overdue balance)\nDue date:     " =
      "%/mo on the overdue balance)" ++ "\nDue date:     " := by simp
    have hopen : " (1.5%/mo on the overdue balance)" =
      " (" ++ ("1.5" ++ "%/mo on the overdue balance)") := by simp
    simp only [hcharge, if_true, interleave, String.append_assoc]
    rw [hend, hopen]
    simp only [String.append_assoc]
  · simp only [hcharge, if_false, interleave, String.empty_append]

theorem termsParts_eq (invoice : BillingInvoice) (rest : String) :
    interleave (termsParts invoice) rest =
      toString invoice.feeScheduleSnapshot.paymentTermsDays ++
        (")" ++ (poLine invoice ++ ("\nRemit to:     " ++ rest))) := by
  have hremit : ")\nRemit to:     " = ")" ++ "\nRemit to:     " := by simp
  have horder : ")\nPO number: " = ")" ++ "\nPO number: " := by simp
  unfold termsParts poLine
  cases hpo : invoice.poNumber with
  | none =>
    simp only [Option.getD_none, if_true, interleave, String.empty_append]
    rw [hremit, String.append_assoc]
  | some po =>
    by_cases hempty : po = ""
    · simp only [Option.getD_some, hempty, if_true, interleave, String.empty_append]
      rw [hremit, String.append_assoc]
    · simp only [Option.getD_some, hempty, if_false, interleave, String.append_assoc]
      rw [horder, String.append_assoc]

/-- The parts of the lines of every mail. -/
def detailParts (invoice : BillingInvoice) : List (String × String) :=
  [("", "\nBill to:      "), (invoice.billTo.legalEntityName, "\nInvoice:      "),
    (invoice.invoiceNumber, "\nPeriod:       "), (invoice.period, "\nAmount due:   ")] ++
  amountParts invoice ++ [(slice invoice.dueAt 10, " (net-")] ++ termsParts invoice ++
  [(invoice.remitTo, "\n\nThis fee is "),
    (toString (Js.round (invoice.feeScheduleSnapshot.feeRate * 100)),
      "% of the incremental recovery "),
    ("AX10M", " proved this period against your own\n" ++
      "randomized holdout, backed by signed Uplift Statement "),
    (invoice.statementHash, " —\n")]

theorem invoiceDetail_eq (invoice : BillingInvoice) :
    invoiceDetail invoice =
      interleave (detailParts invoice) "verifiable against your processor's payout reports." := by
  have hbill : "\nBill to:      " = "\n" ++ "Bill to:      " := by simp
  have hinvoice : "\nInvoice:      " = "\n" ++ "Invoice:      " := by simp
  have hperiod : "\nPeriod:       " = "\n" ++ "Period:       " := by simp
  have hamount : "\nAmount due:   " = "\n" ++ "Amount due:   " := by simp
  have hdue : "\nDue date:     " = "\n" ++ "Due date:     " := by simp
  have hremit : "\nRemit to:     " = "\n" ++ "Remit to:     " := by simp
  have hfee : "\n\nThis fee is " = "\n" ++ ("\n" ++ "This fee is ") := by simp
  have hlift : "% of the incremental recovery AX10M proved this period " =
    "% of the incremental recovery " ++ ("AX10M" ++ " proved this period ") := by simp
  have hproved : " proved this period against your own\n" =
    " proved this period " ++ ("against your own" ++ "\n") := by simp
  have hend : " —\n" = " —" ++ "\n" := by simp
  unfold invoiceDetail detailParts
  simp only [String.intercalate_cons_cons, String.intercalate_singleton, interleave_append, interleave,
    String.append_assoc, String.empty_append, amountParts_eq, termsParts_eq]
  rw [hbill, hinvoice, hperiod, hamount, hdue, hremit, hfee, hlift, hproved, hend]
  simp only [String.append_assoc]

/-! ## Card numbers in a mail -/

theorem slice_clean (s : String) {n : ℕ} (h : n ≤ 12) : containsPanLike (slice s n) = false := by
  refine containsPanLike_short ?_
  rw [slice, String.toList_ofList, List.length_take]
  omega

theorem subject_gaps (invoice : BillingInvoice) (stage : InvoiceDunningStage) :
    areGaps ((subjectParts invoice stage).1.map Prod.snd) = true := by
  cases stage with
  | issued => exact (by decide +kernel : areGaps [" invoice ", " — ", " due "] = true)
  | dueSoon => exact (by decide +kernel : areGaps [" invoice ", " due "] = true)
  | dueToday => exact (by decide +kernel : areGaps [" invoice ", " is due "] = true)
  | overdue1 | overdue2 | finalNotice => exact (by decide +kernel : areGaps [" invoice "] = true)

theorem subject_clean (invoice : BillingInvoice) (stage : InvoiceDunningStage) :
    containsPanLike (invoiceSubject invoice stage) = false ↔
      containsPanLike invoice.invoiceNumber = false ∧
        (stage = .issued →
          containsPanLike (dollars invoice.currency invoice.totalDueMinor) = false) := by
  have hdue : containsPanLike (slice invoice.dueAt 10) = false := slice_clean _ (by omega)
  have hax : containsPanLike "AX10M" = false := by decide +kernel
  have hreminder : containsPanLike "Reminder: AX10M" = false := by decide +kernel
  have htoday : containsPanLike "today" = false := by decide +kernel
  have hpast : containsPanLike "Past due: AX10M" = false := by decide +kernel
  have hfinal : containsPanLike "Final notice: AX10M" = false := by decide +kernel
  rw [invoiceSubject_eq, containsPanLike_interleave (subject_gaps invoice stage)]
  cases stage <;> unfold subjectParts <;> simp [hdue, hax, hreminder, htoday, hpast, hfinal]

theorem intro_gaps (invoice : BillingInvoice) (stage : InvoiceDunningStage) :
    areGaps ((introParts invoice stage).map Prod.snd) = true := by
  cases stage with
  | issued => exact (by decide +kernel : areGaps [" for ", " is ready."] = true)
  | dueSoon => exact (by decide +kernel : areGaps [" for ", " is due soon."] = true)
  | dueToday => exact (by decide +kernel : areGaps [" for ", " is due today."] = true)
  | overdue1 | overdue2 =>
    exact (by decide +kernel : areGaps [" for ", " is past due. A finance charge of ",
      "%/month is now accruing on the overdue balance."] = true)
  | finalNotice =>
    exact (by decide +kernel : areGaps [" for ", " remains unpaid and is significantly past due. " ++
      "Please remit payment or contact us to resolve."] = true)

theorem intro_clean (invoice : BillingInvoice) (stage : InvoiceDunningStage) :
    containsPanLike (invoiceIntro invoice stage) = containsPanLike invoice.period := by
  have hissued : containsPanLike "Your AX10M recovery-uplift invoice" = false := by decide +kernel
  have hsoon : containsPanLike "A reminder that your AX10M invoice" = false := by decide +kernel
  have hyour : containsPanLike "Your AX10M invoice" = false := by decide +kernel
  have hfinal : containsPanLike "This is a final notice: your AX10M invoice" = false := by
    decide +kernel
  have hrate : containsPanLike "1.5" = false := by decide +kernel
  have hempty : containsPanLike "" = false := rfl
  rw [invoiceIntro_eq, containsPanLike_interleave (intro_gaps invoice stage)]
  cases stage <;> unfold introParts <;> simp [hissued, hsoon, hyour, hfinal, hrate, hempty]

/-- The texts that an invoice has of its own are without card numbers. -/
structure Clean (invoice : BillingInvoice) : Prop where
  legalEntityName : containsPanLike invoice.billTo.legalEntityName = false
  invoiceNumber : containsPanLike invoice.invoiceNumber = false
  period : containsPanLike invoice.period = false
  total : containsPanLike (dollars invoice.currency invoice.totalDueMinor) = false
  finance : invoice.financeChargeMinor > 0 →
    containsPanLike (dollars invoice.currency invoice.financeChargeMinor) = false
  terms : containsPanLike (toString invoice.feeScheduleSnapshot.paymentTermsDays) = false
  poNumber : containsPanLike (invoice.poNumber.getD "") = false
  remitTo : containsPanLike invoice.remitTo = false
  feePct : containsPanLike (toString (Js.round (invoice.feeScheduleSnapshot.feeRate * 100))) = false
  statementHash : containsPanLike invoice.statementHash = false

theorem amount_gaps (invoice : BillingInvoice) :
    areGaps ((amountParts invoice).map Prod.snd) = true := by
  unfold amountParts
  by_cases hcharge : invoice.financeChargeMinor > 0
  · rw [if_pos hcharge]
    exact (by decide +kernel : areGaps ["\nLate finance charge included: ", " (",
      "%/mo on the overdue balance)\nDue date:     "] = true)
  · rw [if_neg hcharge]
    exact (by decide +kernel : areGaps ["\nDue date:     "] = true)

theorem amount_clean (invoice : BillingInvoice) :
    (amountParts invoice).any (fun p => containsPanLike p.1) = false ↔
      containsPanLike (dollars invoice.currency invoice.totalDueMinor) = false ∧
        (invoice.financeChargeMinor > 0 →
          containsPanLike (dollars invoice.currency invoice.financeChargeMinor) = false) := by
  have hrate : containsPanLike "1.5" = false := by decide +kernel
  unfold amountParts
  by_cases hcharge : invoice.financeChargeMinor > 0 <;> simp [hcharge, hrate]

theorem terms_gaps (invoice : BillingInvoice) :
    areGaps ((termsParts invoice).map Prod.snd) = true := by
  unfold termsParts
  by_cases hpo : invoice.poNumber.getD "" = ""
  · rw [if_pos hpo]
    exact (by decide +kernel : areGaps [")\nRemit to:     "] = true)
  · rw [if_neg hpo]
    exact (by decide +kernel : areGaps [")\nPO number: ", "\nRemit to:     "] = true)

theorem terms_clean (invoice : BillingInvoice) :
    (termsParts invoice).any (fun p => containsPanLike p.1) = false ↔
      containsPanLike (toString invoice.feeScheduleSnapshot.paymentTermsDays) = false ∧
        containsPanLike (invoice.poNumber.getD "") = false := by
  have hempty : containsPanLike "" = false := rfl
  unfold termsParts
  by_cases hpo : invoice.poNumber.getD "" = "" <;> simp [hpo, hempty]

theorem detail_gaps (invoice : BillingInvoice) :
    areGaps ((detailParts invoice).map Prod.snd) = true := by
  have hhead : areGaps ["\nBill to:      ", "\nInvoice:      ", "\nPeriod:       ",
    "\nAmount due:   "] = true := by decide +kernel
  have hnet : areGaps [" (net-"] = true := by decide +kernel
  have htail : areGaps ["\n\nThis fee is ", "% of the incremental recovery ",
    " proved this period against your own\n" ++
      "randomized holdout, backed by signed Uplift Statement ", " —\n"] = true := by decide +kernel
  have hamount := amount_gaps invoice
  have hterms := terms_gaps invoice
  unfold areGaps detailParts at *
  rw [List.map_append, List.map_append, List.map_append, List.map_append, List.all_append,
    List.all_append, List.all_append, List.all_append, hamount, hterms]
  simp only [List.map_cons, List.map_nil, hhead, hnet, htail, Bool.and_true]

theorem detail_clean (invoice : BillingInvoice) :
    containsPanLike (invoiceDetail invoice) = false ↔ Clean invoice := by
  have hdue : containsPanLike (slice invoice.dueAt 10) = false := slice_clean _ (by omega)
  have hax : containsPanLike "AX10M" = false := by decide +kernel
  have hempty : containsPanLike "" = false := rfl
  have hend : containsPanLike "verifiable against your processor's payout reports." = false := by
    decide +kernel
  rw [invoiceDetail_eq, containsPanLike_interleave (detail_gaps invoice), hend, Bool.or_false]
  unfold detailParts
  simp only [List.any_append, List.any_cons, List.any_nil, Bool.or_false, Bool.or_eq_false_iff,
    amount_clean, terms_clean, hdue, hax, hempty, true_and]
  constructor
  · rintro ⟨⟨⟨⟨hname, hnumber, hperiod⟩, htotal, hfinance⟩, hterms, hpo⟩, hremit, hpct, hhash⟩
    exact ⟨hname, hnumber, hperiod, htotal, hfinance, hterms, hpo, hremit, hpct, hhash⟩
  · intro h
    exact ⟨⟨⟨⟨h.legalEntityName, h.invoiceNumber, h.period⟩, h.total, h.finance⟩, h.terms,
      h.poNumber⟩, h.remitTo, h.feePct, h.statementHash⟩

/-- A mail has no card number if and only if none of the texts of the invoice has. -/
theorem mail_clean (invoice : BillingInvoice) (stage : InvoiceDunningStage) :
    containsPanLike ((invoiceMessage invoice stage).subject.getD "" ++ "\n" ++
      (invoiceMessage invoice stage).body) = false ↔ Clean invoice := by
  have hgaps : areGaps ["\n", "\n"] = true := by decide +kernel
  have hmail : (invoiceMessage invoice stage).subject.getD "" ++ "\n" ++
      (invoiceMessage invoice stage).body =
        interleave [(invoiceSubject invoice stage, "\n"), (invoiceIntro invoice stage, "\n")]
          (invoiceDetail invoice) := by
    show invoiceSubject invoice stage ++ "\n" ++
      (invoiceIntro invoice stage ++ "\n" ++ invoiceDetail invoice) = _
    simp only [interleave, String.append_assoc]
  have hparts := @containsPanLike_interleave
    [(invoiceSubject invoice stage, "\n"), (invoiceIntro invoice stage, "\n")]
    (invoiceDetail invoice) hgaps
  rw [hmail, hparts]
  simp only [List.any_cons, List.any_nil, Bool.or_false, Bool.or_eq_false_iff, subject_clean,
    intro_clean, detail_clean]
  constructor
  · rintro ⟨-, h⟩
    exact h
  · intro h
    exact ⟨⟨⟨h.invoiceNumber, fun _ => h.total⟩, h.period⟩, h⟩

/-! ## Issued invoices -/

/-- A statement as a run signs it: of a month, under the hexadecimal digest of its text. -/
structure IsSigned (statement : StatementForInvoice) : Prop where
  period : ∃ now, statement.period = (monthBefore now).label
  digits : ∀ c ∈ statement.statementHash.toList, isWordChar c = true
  length : statement.statementHash.toList.length = 64

theorem label_clean (now : ℤ) : containsPanLike (monthBefore now).label = false := by
  refine containsPanLike_short ?_
  rw [monthBefore, String.toList_ofList, List.length_take]
  omega

theorem body_not_blank (invoice : BillingInvoice) (stage : InvoiceDunningStage) :
    trim (invoiceMessage invoice stage).body ≠ "" := by
  have hbody : (invoiceMessage invoice stage).body =
      invoiceIntro invoice stage ++ "\n" ++ invoiceDetail invoice := rfl
  have hissued : 'A' ∈ "Your AX10M recovery-uplift invoice for ".toList := by decide +kernel
  have hsoon : 'A' ∈ "A reminder that your AX10M invoice for ".toList := by decide +kernel
  have hyour : 'A' ∈ "Your AX10M invoice for ".toList := by decide +kernel
  have hfinal : 'A' ∈ "This is a final notice: your AX10M invoice for ".toList := by decide +kernel
  have hletter : 'A' ∈ (invoiceIntro invoice stage).toList := by
    unfold invoiceIntro
    cases stage <;> simp only [String.toList_append, List.mem_append, hissued, hsoon, hyour, hfinal,
      true_or]
  intro h
  have hnil := congrArg String.toList h
  rw [trim, String.toList_ofList, hbody, String.toList_append, String.toList_append] at hnil
  exact trimList_ne_nil (List.mem_append_left _ (List.mem_append_left _ hletter)) (by decide) hnil

/-- What an account takes over from the submission that is accepted. -/
theorem buildBillingAccount_texts {input : OptInInput} {accountId createdAt : String}
    {account : BillingAccount} (h : buildBillingAccount input accountId createdAt = .ok account) :
    account.legalEntityName = input.legalEntityName ∧ account.apContactEmail ≠ "" ∧
      containsPanLike (account.poNumber.getD "") = false := by
  have hvalid := failing_eq_nil (buildBillingAccount_eq_ok h).1
  have hmem : (isBlank input.apContactEmail, "apContactEmail is required") ∈ optInChecks input := by
    simp only [optInChecks, List.mem_cons, true_or, or_true]
  have hmem' : (looksLikePan input.poNumber, "poNumber looks like a card number") ∈
      optInChecks input := by
    simp only [optInChecks, List.mem_cons, true_or, or_true]
  have hemail := hvalid _ hmem
  have hpo := hvalid _ hmem'
  simp only at hemail hpo
  unfold buildBillingAccount at h
  split at h
  next hv =>
    obtain rfl := Except.ok.inj h
    refine ⟨rfl, ?_, ?_⟩
    · intro hempty
      rw [show input.apContactEmail = "" from hempty] at hemail
      cases hemail
    · by_contra hpan
      rw [Bool.not_eq_false] at hpan
      have hrun := panSomewhere_of_word hpan
      rw [show panSomewhere (input.poNumber.getD "").toList = looksLikePan input.poNumber from rfl,
        hpo] at hrun
      cases hrun
  next => cases h

/-- The mail of a stage of an issued invoice passes the transport if and only if no card number is
    in the legal name, the invoice number, the amounts with their currency or the terms. -/
theorem deliverable_iff {input : OptInInput} {accountId createdAt : String}
    {account : BillingAccount} {statement : StatementForInvoice} {issuedAt remitTo : String}
    {invoice : BillingInvoice}
    (haccount : buildBillingAccount input accountId createdAt = .ok account)
    (hsigned : IsSigned statement) (hremit : containsPanLike remitTo = false)
    (hinvoice : buildInvoice account statement issuedAt remitTo = .ok invoice)
    (stage : InvoiceDunningStage) (asOfIso : String) :
    let asOf := invoiceAsOf invoice asOfIso
    let charge := computeFinanceChargeMinor invoice asOfIso
    assertSendable (invoiceMessage asOf stage) (apRecipient asOf) = .ok () ↔
      containsPanLike input.legalEntityName = false ∧
      containsPanLike (invoiceNumberFor statement.merchantId statement.period) = false ∧
      containsPanLike (dollars statement.currency (statement.feeMinor + charge)) = false ∧
      (charge > 0 → containsPanLike (dollars statement.currency charge) = false) ∧
      containsPanLike (toString account.feeSchedule.paymentTermsDays) = false ∧
      containsPanLike (toString (Js.round (account.feeSchedule.feeRate * 100))) = false := by
  intro asOf charge
  obtain ⟨hname, hemail, hpo⟩ := buildBillingAccount_texts haccount
  have hbuilt := buildInvoice_spec hinvoice
  have hmonth : containsPanLike statement.period = false := by
    obtain ⟨now, hnow⟩ := hsigned.period
    rw [hnow]
    exact label_clean now
  have hdigest : containsPanLike statement.statementHash = false := by
    refine panWordSomewhere_word hsigned.digits ?_
    rw [hsigned.length]
    omega
  have haddress : (apRecipient asOf).email.getD "" ≠ "" := by
    show invoice.billTo.apContactEmail ≠ ""
    rw [hbuilt.billTo]
    exact hemail
  rw [assertSendable_email rfl rfl (body_not_blank asOf stage) haddress, mail_clean]
  constructor
  · intro h
    refine ⟨?_, ?_, ?_, ?_, ?_, ?_⟩
    · have := h.legalEntityName
      rwa [show asOf.billTo = _ from hbuilt.billTo, hname] at this
    · rw [← hbuilt.number]
      exact h.invoiceNumber
    · rw [← hbuilt.currency, ← hbuilt.subtotal]
      exact h.total
    · rw [← hbuilt.currency]
      exact h.finance
    · rw [← hbuilt.fees]
      exact h.terms
    · rw [← hbuilt.fees]
      exact h.feePct
  · rintro ⟨hlegal, hnum, htotal, hfinance, hterms, hpct⟩
    constructor
    · rw [show asOf.billTo = _ from hbuilt.billTo, hname]
      exact hlegal
    · rw [show asOf.invoiceNumber = _ from hbuilt.number]
      exact hnum
    · rw [show asOf.period = _ from hbuilt.period]
      exact hmonth
    · rw [← hbuilt.currency, ← hbuilt.subtotal] at htotal
      exact htotal
    · rw [← hbuilt.currency] at hfinance
      exact hfinance
    · rw [← hbuilt.fees] at hterms
      exact hterms
    · rw [show asOf.poNumber = _ from hbuilt.po]
      exact hpo
    · rw [show asOf.remitTo = _ from hbuilt.remit]
      exact hremit
    · rw [← hbuilt.fees] at hpct
      exact hpct
    · rw [show asOf.statementHash = _ from hbuilt.hash]
      exact hdigest

namespace Sample

/-- A submission on the invoice track. -/
def apSubmission (merchantId : String) : OptInInput where
  merchantId
  legalEntityName := "Example GmbH"
  billingAddress := ⟨"1 Main Street", none, "Berlin", "BE", "10115", "DE"⟩
  apContactEmail := "ap@example.com"
  payerTrack := .invoice
  signer := ⟨"A. Example", "CFO", "cfo@example.com"⟩

/-- The account that it becomes. -/
def apAccount (merchantId : String) : BillingAccount where
  accountId := "acct_" ++ merchantId
  merchantId
  legalEntityName := "Example GmbH"
  billingAddress := ⟨"1 Main Street", none, "Berlin", "BE", "10115", "DE"⟩
  taxId := none
  apContactEmail := "ap@example.com"
  poRequired := false
  poNumber := none
  payerTrack := .invoice
  paymentMethodRef := none
  customerRef := none
  feeSchedule := defaultFeeSchedule
  status := .active
  createdAt := "2026-01-01T00:00:00.000Z"

/-- A signed statement for January. -/
def apStatement (merchantId : String) : StatementForInvoice where
  merchantId
  period := "2026-01"
  currency := "USD"
  feeMinor := 1183
  grossFeeMinor := 1591
  holdoutCreditMinor := 408
  estimatedHoldoutCostMinor := 408
  upliftLowerMinor := 13255
  statementHash := String.ofList (List.replicate 64 '7')
  billable := true

/-- The invoice of the statement. -/
def apInvoice (merchantId : String) : Except String BillingInvoice :=
  buildInvoice (apAccount merchantId) (apStatement merchantId) "2026-02-01T06:00:00.000Z"
    "Wire to the account on file"

theorem apSigned (merchantId : String) : IsSigned (apStatement merchantId) := by
  have hperiod : "2026-01" = (monthBefore 1769925600000).label := by decide +kernel
  constructor
  · exact ⟨1769925600000, hperiod⟩
  · intro c hc
    rw [apStatement, String.toList_ofList] at hc
    rw [List.eq_of_mem_replicate hc]
    rfl
  · rw [apStatement, String.toList_ofList, List.length_replicate]

theorem apOptIn (merchantId : String) (h : validateOptIn (apSubmission merchantId) = []) :
    buildBillingAccount (apSubmission merchantId) ("acct_" ++ merchantId)
      "2026-01-01T00:00:00.000Z" = .ok (apAccount merchantId) := by
  rw [buildBillingAccount, h]
  rfl

end Sample

/-- The invoice of January can be delivered when it is issued. -/
theorem deliverable_january :
    ∃ invoice, Sample.apInvoice "mrc_1" = .ok invoice ∧
      assertSendable (invoiceMessage (invoiceAsOf invoice "2026-02-01T06:00:00.000Z") .issued)
        (apRecipient (invoiceAsOf invoice "2026-02-01T06:00:00.000Z")) = .ok () := by
  have hvalid : validateOptIn (Sample.apSubmission "mrc_1") = [] := by decide +kernel
  have hcharge : (Sample.apInvoice "mrc_1").toOption.map
      (fun i => computeFinanceChargeMinor i "2026-02-01T06:00:00.000Z") = some 0 := by decide +kernel
  cases hinvoice : Sample.apInvoice "mrc_1" with
  | error e =>
    rw [hinvoice] at hcharge
    cases hcharge
  | ok invoice =>
    rw [hinvoice] at hcharge
    have hzero : computeFinanceChargeMinor invoice "2026-02-01T06:00:00.000Z" = 0 :=
      Option.some.inj hcharge
    have hremit : containsPanLike "Wire to the account on file" = false := by decide +kernel
    have hiff := deliverable_iff (Sample.apOptIn "mrc_1" hvalid) (Sample.apSigned "mrc_1") hremit
      hinvoice .issued "2026-02-01T06:00:00.000Z"
    refine ⟨invoice, rfl, hiff.2 ?_⟩
    rw [hzero]
    decide +kernel

/-- Where the digits of a merchant id and of the month are one run, no stage can ever be
    delivered. -/
theorem deliverable_fails :
    buildBillingAccount (Sample.apSubmission "mrc-1234567") ("acct_" ++ "mrc-1234567")
        "2026-01-01T00:00:00.000Z" = .ok (Sample.apAccount "mrc-1234567") ∧
      IsSigned (Sample.apStatement "mrc-1234567") ∧
      ∃ invoice, Sample.apInvoice "mrc-1234567" = .ok invoice ∧
        invoice.invoiceNumber = "AX-MRC-1234567-2026-01" ∧
        containsPanLike invoice.remitTo = false ∧
        ∀ stage asOfIso, assertSendable (invoiceMessage (invoiceAsOf invoice asOfIso) stage)
          (apRecipient (invoiceAsOf invoice asOfIso)) ≠ .ok () := by
  have hvalid : validateOptIn (Sample.apSubmission "mrc-1234567") = [] := by decide +kernel
  have htexts : (Sample.apInvoice "mrc-1234567").toOption.map
      (fun i => (i.invoiceNumber, containsPanLike i.remitTo, containsPanLike i.invoiceNumber,
        i.billTo.apContactEmail)) =
      some ("AX-MRC-1234567-2026-01", false, true, "ap@example.com") := by decide +kernel
  refine ⟨Sample.apOptIn "mrc-1234567" hvalid, Sample.apSigned _, ?_⟩
  cases hinvoice : Sample.apInvoice "mrc-1234567" with
  | error e =>
    rw [hinvoice] at htexts
    cases htexts
  | ok invoice =>
    rw [hinvoice] at htexts
    have htexts := Option.some.inj htexts
    simp only [Prod.mk.injEq] at htexts
    obtain ⟨hnumber, hremit, hpan, hemail⟩ := htexts
    refine ⟨invoice, rfl, hnumber, hremit, fun stage asOfIso => ?_⟩
    have haddress : (apRecipient (invoiceAsOf invoice asOfIso)).email.getD "" ≠ "" := by
      show invoice.billTo.apContactEmail ≠ ""
      rw [hemail]
      decide
    rw [ne_eq, assertSendable_email rfl rfl (body_not_blank _ stage) haddress, mail_clean]
    intro h
    have := h.invoiceNumber
    rw [invoiceAsOf_invoiceNumber, hpan] at this
    cases this

end AX10M
