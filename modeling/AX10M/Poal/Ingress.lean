/-
  What the adapters share in reading a webhook: amounts, times, ids, and the customer of a
  failed invoice (`customer.ts`).

  An adapter reads the body as its own record of the fields it uses; whether the body is
  valid JSON, and whether its signature holds, comes with the delivery.
-/
import AX10M.Js.Text
import AX10M.Js.Date
import AX10M.RecoveryEngine

namespace AX10M

open Js

/-- A raw webhook: what its signature check says, and its body, if it can be read. -/
structure RawWebhook (Body : Type) where
  verified : Bool
  body : Option Body

/-- What an adapter makes of a webhook: canonical events, or an error. -/
abbrev Ingested := Except String (List CanonicalEvent)

theorem truthy_eq_some {v : Option String} {s : String} (h : truthy v = some s) : v = some s :=
  (Option.filter_eq_some_iff.1 h).1

/-- A number of minor units, `0` if there is none (`CENTS`). -/
def cents (n : Option ℚ) : MinorUnits := n.getD 0

/-- The time of an event that has none. -/
def epochIso : String := Date.toISOString 0

/-- A time in ISO 8601, that of the epoch if it cannot be read. -/
def toIso (value : Option String) : String :=
  match (truthy value).bind Date.parse with
  | some t => Date.toISOString t
  | none => epochIso

/-- A field that is a text or a number (`number | string`). -/
inductive TextOrNumber where
  | text (s : String)
  | number (n : ℚ)
  deriving DecidableEq

namespace TextOrNumber

/-- The text of a field, with the texts of numbers (`String`). -/
def toText (numberText : ℚ → String) : TextOrNumber → String
  | text s => s
  | number n => numberText n

/-- A field that is present, and neither empty nor zero. -/
def truthy : Option TextOrNumber → Option TextOrNumber
  | some (text s) => if s = "" then none else some (text s)
  | some (number n) => if n = 0 then none else some (number n)
  | none => none

end TextOrNumber

/-! ## Ids -/

/-- The canonical id of the invoice with a reference. -/
def invoiceIdOf (ref : String) : String := "ax10m_inv_" ++ ref

theorem invoiceIdOf_inj {ref ref' : String} : invoiceIdOf ref = invoiceIdOf ref' ↔ ref = ref' :=
  String.append_right_inj _

/-- The id of a charge attempt that was not ours (`buildAttempt`). -/
def attemptIdOf (txnId : Option String) : String := "ax10m_att_" ++ txnId.getD "unknown"

/-- An id with its prefix, if there is something to prefix. -/
def prefixed (pre : String) (ref : Option String) : Option String := (truthy ref).map (pre ++ ·)

/-! ## Decline codes -/

/-- The code that a table gives for a reason. -/
def codeFrom (table : List (String × DeclineCode)) (reason : String) : DeclineCode :=
  (table.lookup reason).getD .unknown

/-- The code of the first rule whose text the reason includes. -/
def codeByRule (rules : List (String × DeclineCode)) (reason : String) : Option DeclineCode :=
  (rules.find? fun rule => includes reason rule.1).map Prod.snd

/-! ## Customers -/

/-- A phone number in E.164, if it is an international one. -/
def toE164 (raw : Option String) : Option String := do
  let s := trim (← truthy raw)
  let s := if startsWith s "00" then "+" ++ stripPrefix s "00" else s
  if !startsWith s "+" then none
  else
    let digits := s.toList.filter Char.isDigit
    if 8 ≤ digits.length ∧ digits.length ≤ 15 then some ("+" ++ String.ofList digits) else none

/-- The contact fields of a webhook. -/
structure ContactOverrides where
  email : Option String := none
  phone : Option String := none

/-- The contact fields that are usable. -/
def contactOverrides (email phone : Option String) : ContactOverrides where
  email := truthy email
  phone := truthy (toE164 phone)

/-- The customer of a failed invoice. -/
def customerFromInvoice (invoice : Invoice) (overrides : ContactOverrides := {}) : Customer where
  id := invoice.customerId
  merchantId := invoice.merchantId
  processorRef := stripPrefix invoice.customerId "ax10m_cus_"
  email := overrides.email
  phone := overrides.phone
  issuerRegion := .unknown
  createdAt := invoice.createdAt
  consent := ⟨false, false, false, false, false⟩

end AX10M
