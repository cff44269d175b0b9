/-
  Invoice numbers (`@ax10m/billing`, `invoice.ts`) as keys of the table of invoices
  (`@ax10m/persistence`, `billing-repo.ts`).

  A number is the text of merchant and period in upper case, with a dash for everything that is
  neither a letter of ASCII nor a digit.  Two numbers are the same if the texts read alike in that
  way, and then the invoice of one merchant overwrites that of the other (`invoice_numbers_iff`).
-/
import AX10M.Billing.Collection
import Mathlib.Data.List.Forall2

namespace AX10M

open Js

/-! ## Texts that read alike -/

/-- The unit is an upper case letter of ASCII or a digit. -/
def IsLetterOrDigit (u : Option Char) : Prop := ∃ c ∈ u, c.isUpper ∨ c.isDigit

/-- Two units are the same letter or digit, or neither is one. -/
def SameUnit (u v : Option Char) : Prop := u = v ∨ ¬ IsLetterOrDigit u ∧ ¬ IsLetterOrDigit v

/-- Two pairs of a merchant and a period are, in upper case, the same unit by unit. -/
def Alike (m p m' p' : String) : Prop :=
  List.Forall₂ SameUnit (toUpperCase (m ++ "-" ++ p)) (toUpperCase (m' ++ "-" ++ p'))

theorem numberUnit_of_letter {c : Char} (h : IsLetterOrDigit (some c)) : numberUnit (some c) = c := by
  obtain ⟨c', hc, h⟩ := h
  obtain rfl := Option.some.inj hc
  rcases h with h | h
  · simp [numberUnit, h]
  · simp [numberUnit, h]

theorem numberUnit_of_not {u : Option Char} (h : ¬ IsLetterOrDigit u) : numberUnit u = '-' := by
  cases u with
  | none => rfl
  | some c =>
    have hc : ¬ (c.isUpper ∨ c.isDigit) := fun hc => h ⟨c, rfl, hc⟩
    rw [numberUnit]
    split_ifs with hdash
    · rcases hdash with hupper | hdigit | hdash
      · exact absurd (.inl hupper) hc
      · exact absurd (.inr hdigit) hc
      · exact hdash
    · rfl

theorem not_isLetterOrDigit_dash : ¬ IsLetterOrDigit (some '-') := by
  rintro ⟨c, hc, h⟩
  obtain rfl := Option.some.inj hc
  rcases h with h | h
  · exact absurd h (by decide)
  · exact absurd h (by decide)

theorem numberUnit_eq_iff {u v : Option Char} : numberUnit u = numberUnit v ↔ SameUnit u v := by
  constructor
  · intro h
    by_cases hu : IsLetterOrDigit u
    · by_cases hv : IsLetterOrDigit v
      · obtain ⟨c, rfl, -⟩ := id hu
        obtain ⟨d, rfl, -⟩ := id hv
        rw [numberUnit_of_letter hu, numberUnit_of_letter hv] at h
        exact .inl (congrArg some h)
      · -- a letter or digit is no dash
        obtain ⟨c, rfl, -⟩ := id hu
        rw [numberUnit_of_letter hu, numberUnit_of_not hv] at h
        subst h
        exact absurd hu not_isLetterOrDigit_dash
    · by_cases hv : IsLetterOrDigit v
      · obtain ⟨d, rfl, -⟩ := id hv
        rw [numberUnit_of_not hu, numberUnit_of_letter hv] at h
        subst h
        exact absurd hv not_isLetterOrDigit_dash
      · exact .inr ⟨hu, hv⟩
  · rintro (rfl | ⟨hu, hv⟩)
    · rfl
    · rw [numberUnit_of_not hu, numberUnit_of_not hv]

theorem forall₂_sameUnit_iff {l l' : List (Option Char)} :
    List.Forall₂ SameUnit l l' ↔ l.map numberUnit = l'.map numberUnit := by
  have hsame : SameUnit = fun u v => numberUnit u = numberUnit v := by
    funext u v
    exact propext numberUnit_eq_iff.symm
  have hmap : List.Forall₂ (fun u v => numberUnit u = numberUnit v) l l' ↔
      List.Forall₂ Eq (l.map numberUnit) (l'.map numberUnit) :=
    List.forall₂_map_right_iff.symm.trans List.forall₂_map_left_iff.symm
  rw [hsame, hmap, List.forall₂_eq_eq_eq]

theorem toUpperCase_append (s t : String) : toUpperCase (s ++ t) = toUpperCase s ++ toUpperCase t := by
  rw [toUpperCase, String.toList_append, List.flatMap_append, ← toUpperCase, ← toUpperCase]

/-- Two numbers are the same if the texts of merchant and period read alike. -/
theorem invoiceNumberFor_eq_iff (m p m' p' : String) :
    invoiceNumberFor m p = invoiceNumberFor m' p' ↔ Alike m p m' p' := by
  have hsplit : ∀ m p : String, (toUpperCase ("AX-" ++ m ++ "-" ++ p)).map numberUnit =
      (toUpperCase "AX-").map numberUnit ++ (toUpperCase (m ++ "-" ++ p)).map numberUnit := by
    intro m p
    rw [String.append_assoc, String.append_assoc, toUpperCase_append, List.map_append,
      String.append_assoc]
  rw [invoiceNumberFor, invoiceNumberFor, hsplit, hsplit, Alike, forall₂_sameUnit_iff]
  constructor
  · intro h
    exact List.append_cancel_left (String.ofList_injective h)
  · intro h
    rw [h]

/-! ## The table of invoices -/

/-- The invoices after some were issued one after the other. -/
def issuedInOrder (l : List BillingInvoice) : BillingState := l.foldl BillingState.upsertInvoice {}

theorem issuedInOrder_get (l : List BillingInvoice) (n : String) :
    (issuedInOrder l).invoices.get n = (l.filter fun i => i.invoiceNumber = n).getLast? := by
  have hfold : ∀ s : BillingState, (l.foldl BillingState.upsertInvoice s).invoices =
      l.foldl (fun m i => m.set i.invoiceNumber i) s.invoices := by
    induction l with
    | nil => exact fun _ => rfl
    | cons i l ih => exact fun s => ih _
  rw [issuedInOrder, hfold, get_foldl_set, Map.get_empty, Option.or_none]

/-- No invoice replaces one of another merchant. -/
def NeverOverwritten (l : List BillingInvoice) : Prop :=
  ∀ before j after, l = before ++ j :: after →
    ∀ i ∈ (issuedInOrder before).invoices.get j.invoiceNumber, i.merchantId = j.merchantId

theorem neverOverwritten_iff (l : List BillingInvoice) :
    NeverOverwritten l ↔
      ∀ i ∈ l, ∀ j ∈ l, i.invoiceNumber = j.invoiceNumber → i.merchantId = j.merchantId := by
  constructor
  · intro h
    induction l using List.reverseRecOn with
    | nil => simp
    | append_singleton l x ih =>
      have hl : NeverOverwritten l := fun before j after he =>
        h before j (after ++ [x]) (by simp [he])
      have hlast : ∀ i ∈ l, i.invoiceNumber = x.invoiceNumber → i.merchantId = x.merchantId := by
        intro i hi hn
        have hmem : i ∈ l.filter fun k => k.invoiceNumber = x.invoiceNumber := by simp [hi, hn]
        obtain ⟨k, hk⟩ := Option.isSome_iff_exists.1
          (List.getLast?_isSome.2 (List.ne_nil_of_mem hmem))
        obtain ⟨hkl, hkn⟩ := List.mem_filter.1 (List.mem_of_getLast? hk)
        have hkx := h l x [] rfl k (by rw [issuedInOrder_get]; exact hk)
        exact (ih hl i hi k hkl (hn.trans (of_decide_eq_true hkn).symm)).trans hkx
      intro i hi j hj hn
      rcases List.mem_append.1 hi with hi | hi <;> rcases List.mem_append.1 hj with hj | hj
      · exact ih hl i hi j hj hn
      · rw [List.mem_singleton.1 hj] at hn ⊢
        exact hlast i hi hn
      · rw [List.mem_singleton.1 hi] at hn ⊢
        exact (hlast j hj hn.symm).symm
      · rw [List.mem_singleton.1 hi, List.mem_singleton.1 hj]
  · rintro h before j after rfl i hi
    rw [issuedInOrder_get] at hi
    obtain ⟨hib, hin⟩ := List.mem_filter.1 (List.mem_of_getLast? hi)
    exact h i (by simp [hib]) j (by simp) (of_decide_eq_true hin)

/-- Two pairs of a merchant and a period have one number exactly if they read alike, and over any
    sequence of invoices none replaces one of another merchant exactly if none of another merchant
    reads alike. -/
theorem invoice_numbers_iff (m p m' p' : String) (l : List BillingInvoice)
    (h : ∀ i ∈ l, i.invoiceNumber = invoiceNumberFor i.merchantId i.period) :
    (invoiceNumberFor m p = invoiceNumberFor m' p' ↔ Alike m p m' p') ∧
    (NeverOverwritten l ↔ ∀ i ∈ l, ∀ j ∈ l,
      Alike i.merchantId i.period j.merchantId j.period → i.merchantId = j.merchantId) := by
  constructor
  · exact invoiceNumberFor_eq_iff m p m' p'
  · rw [neverOverwritten_iff]
    refine forall₂_congr fun i hi => forall₂_congr fun j hj => ?_
    rw [h i hi, h j hj, invoiceNumberFor_eq_iff]

namespace Sample

/-- An invoice of a merchant for January. -/
def januaryInvoice (merchantId : String) : Option BillingInvoice :=
  (buildInvoice { autoPayAccount with merchantId }
    ⟨merchantId, "2026-01", "USD", 1183, 1591, 408, 408, 13260, "hash_1", true⟩
    "2026-02-01T06:00:00.000Z" "billing@ax10m.example").toOption

/-- The invoices of some merchants, issued one after the other. -/
def januaryInvoices (merchantIds : List String) : List BillingInvoice :=
  merchantIds.filterMap januaryInvoice

end Sample

/-- Two merchants have one number, and the invoice of the second is left. -/
theorem invoice_numbers_fails :
    let l := Sample.januaryInvoices ["mrc_1", "mrc-1"]
    (l.map fun i => (i.merchantId, i.period, i.invoiceNumber)) =
        [("mrc_1", "2026-01", "AX-MRC-1-2026-01"), ("mrc-1", "2026-01", "AX-MRC-1-2026-01")] ∧
      invoiceNumberFor "mrc_1" "2026-01" = invoiceNumberFor "mrc-1" "2026-01" ∧
      ¬ NeverOverwritten l ∧
      ((issuedInOrder l).invoices.get "AX-MRC-1-2026-01").map BillingInvoice.merchantId =
        some "mrc-1" := by
  simp only [neverOverwritten_iff]
  decide +kernel

/-- Two merchants that do not read alike keep their invoices. -/
theorem invoice_numbers_apart :
    NeverOverwritten (Sample.januaryInvoices ["mrc_1", "mrc_2"]) := by
  have hnumbers : ∀ i ∈ Sample.januaryInvoices ["mrc_1", "mrc_2"],
      i.invoiceNumber = invoiceNumberFor i.merchantId i.period := by decide +kernel
  have happart : ∀ i ∈ Sample.januaryInvoices ["mrc_1", "mrc_2"],
      ∀ j ∈ Sample.januaryInvoices ["mrc_1", "mrc_2"],
        invoiceNumberFor i.merchantId i.period = invoiceNumberFor j.merchantId j.period →
          i.merchantId = j.merchantId := by decide +kernel
  refine (invoice_numbers_iff "mrc_1" "2026-01" "mrc_2" "2026-01" _ hnumbers).2.2 ?_
  intro i hi j hj halike
  exact happart i hi j hj ((invoiceNumberFor_eq_iff _ _ _ _).2 halike)

/-! ## Months -/

/-- A label of digits and dashes, as the months have. -/
def IsLabel (p : String) : Prop := ∀ c ∈ p.toList, c.isDigit ∨ c = '-'

theorem upperUnits_label {c : Char} (h : c.isDigit ∨ c = '-') : upperUnits c = [some c] := by
  rcases h with hdigit | rfl
  · have hnat : 48 ≤ c.toNat ∧ c.toNat ≤ 57 := by
      simpa [Char.isDigit, UInt32.le_iff_toNat_le, ← Char.toNat_val] using hdigit
    have hlower : ¬ (c.val ≥ 97 ∧ c.val ≤ 122) := by
      rintro ⟨hle, -⟩
      have hle := UInt32.le_iff_toNat_le.1 hle
      rw [Char.toNat_val] at hle
      change 97 ≤ c.toNat at hle
      omega
    have hupper : c.toUpper = c := dif_neg hlower
    rw [upperUnits, if_pos (by omega), hupper]
  · decide

/-- A label stands in a number as it is. -/
theorem label_units {p : String} (h : IsLabel p) :
    (toUpperCase p).map numberUnit = p.toList := by
  rw [toUpperCase, List.flatMap_congr fun c hc => upperUnits_label (h c hc), List.map_flatMap]
  refine (List.flatMap_congr fun c hc => ?_).trans (List.flatMap_singleton' _)
  rcases h c hc with hdigit | rfl
  · simp [numberUnit, hdigit]
  · decide

/-- With labels of one length, the merchants read alike and the months are the same. -/
theorem alike_label_iff {m p m' p' : String} (h : IsLabel p) (h' : IsLabel p')
    (hlength : p.toList.length = p'.toList.length) :
    Alike m p m' p' ↔ List.Forall₂ SameUnit (toUpperCase m) (toUpperCase m') ∧ p = p' := by
  rw [Alike, forall₂_sameUnit_iff, forall₂_sameUnit_iff, String.append_assoc, String.append_assoc]
  simp only [toUpperCase_append, List.map_append, label_units h, label_units h']
  constructor
  · intro heq
    obtain ⟨hm, hrest⟩ := List.append_inj' heq (by simp [hlength])
    exact ⟨hm, String.toList_injective (List.append_cancel_left hrest)⟩
  · rintro ⟨hm, rfl⟩
    rw [hm]

end AX10M
