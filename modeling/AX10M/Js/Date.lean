/-
  Instants: milliseconds since 1970-01-01T00:00:00Z, and their ISO 8601 texts.

  `parse` is `Date.parse` on the date-time string format (a date, or a date and
  a time with `Z` or an offset; a time without a zone is read in UTC, the zone
  the services run in); `none` is `NaN`.  Dates are of the proleptic Gregorian
  calendar.
-/
import Mathlib.Algebra.Ring.Int.Defs

namespace Js.Date

/-- Milliseconds in a day. -/
def msPerDay : ℤ := 86400000

/-- Days from 1970-01-01 to the given day (`m` from 1, `d` any). -/
def daysFromCivil (y m d : ℤ) : ℤ :=
  let y' := if m ≤ 2 then y - 1 else y
  let era := y' / 400
  let yoe := y' - era * 400
  let doy := (153 * (if m > 2 then m - 3 else m + 9) + 2) / 5 + d - 1
  era * 146097 + (yoe * 365 + yoe / 4 - yoe / 100 + doy) - 719468

/-- The day `z` days after 1970-01-01: year, month (from 1) and day of the month. -/
def civilFromDays (z : ℤ) : ℤ × ℤ × ℤ :=
  let z' := z + 719468
  let era := z' / 146097
  let doe := z' - era * 146097
  let yoe := (doe - doe / 1460 + doe / 36524 - doe / 146096) / 365
  let doy := doe - (365 * yoe + yoe / 4 - yoe / 100)
  let mp := (5 * doy + 2) / 153
  let m := if mp < 10 then mp + 3 else mp - 9
  (yoe + era * 400 + if m ≤ 2 then 1 else 0, m, doy - (153 * mp + 2) / 5 + 1)

/-- Start of a day (`Date.UTC(y, m, d)`, for a year `y` that it does not take for one of the
    twentieth century); the month `m` counts from 0 and may overflow into other years. -/
def utc (y m d : ℤ) : ℤ := daysFromCivil (y + m / 12) (m % 12 + 1) d * msPerDay

/-- The year of an instant (`getUTCFullYear`). -/
def year (ms : ℤ) : ℤ := (civilFromDays (ms / msPerDay)).1

/-- The month of an instant, from 0 (`getUTCMonth`). -/
def month (ms : ℤ) : ℤ := (civilFromDays (ms / msPerDay)).2.1 - 1

/-- The day of the month of an instant (`getUTCDate`). -/
def date (ms : ℤ) : ℤ := (civilFromDays (ms / msPerDay)).2.2

/-- The hour of an instant (`getUTCHours`). -/
def hours (ms : ℤ) : ℤ := ms % msPerDay / 3600000

/-! ### Texts -/

/-- The number in a text of digits. -/
def digits (cs : List Char) : Option ℤ :=
  cs.foldl (fun acc c => do
    let n ← acc
    if c.isDigit then some (n * 10 + (c.toNat - 48 : ℕ)) else none) (some 0)

/-- A number in a range. -/
def within (lo hi : ℤ) (cs : List Char) : Option ℤ := do
  let n ← digits cs
  if lo ≤ n ∧ n ≤ hi then some n else none

/-- The zone at the end of a time, in minutes ahead of UTC. -/
def zone : List Char → Option ℤ
  | [] => some 0
  | ['Z'] => some 0
  | ['+', a, b, ':', c, d] => do pure ((← within 0 23 [a, b]) * 60 + (← within 0 59 [c, d]))
  | ['-', a, b, ':', c, d] => do pure (-((← within 0 23 [a, b]) * 60 + (← within 0 59 [c, d])))
  | _ => none

/-- The time of a day, in milliseconds from its start in UTC. -/
def time : List Char → Option ℤ
  | [] => some 0
  | 'T' :: a :: b :: ':' :: c :: d :: ':' :: e :: f :: '.' :: g :: h :: i :: rest => do
    let hm := (← within 0 24 [a, b]) * 60 + (← within 0 59 [c, d]) - (← zone rest)
    pure ((hm * 60 + (← within 0 59 [e, f])) * 1000 + (← digits [g, h, i]))
  | 'T' :: a :: b :: ':' :: c :: d :: ':' :: e :: f :: rest => do
    let hm := (← within 0 24 [a, b]) * 60 + (← within 0 59 [c, d]) - (← zone rest)
    pure ((hm * 60 + (← within 0 59 [e, f])) * 1000)
  | 'T' :: a :: b :: ':' :: c :: d :: rest => do
    pure (((← within 0 24 [a, b]) * 60 + (← within 0 59 [c, d]) - (← zone rest)) * 60000)
  | _ => none

/-- The instant an ISO text denotes, `none` if it denotes none (`Date.parse`). -/
def parse (s : String) : Option ℤ :=
  match s.toList with
  | a :: b :: c :: d :: '-' :: e :: f :: '-' :: g :: h :: rest => do
    let day := daysFromCivil (← digits [a, b, c, d]) (← within 1 12 [e, f]) (← within 1 31 [g, h])
    pure (day * msPerDay + (← time rest))
  | [a, b, c, d, '-', e, f] => do
    pure (daysFromCivil (← digits [a, b, c, d]) (← within 1 12 [e, f]) 1 * msPerDay)
  | [a, b, c, d] => do pure (daysFromCivil (← digits [a, b, c, d]) 1 1 * msPerDay)
  | _ => none

/-- The last `n` decimal digits of a number. -/
def pad (n : ℕ) (x : ℤ) : List Char :=
  (List.range n).reverse.map fun i => Char.ofNat (48 + ((x / 10 ^ i) % 10).toNat)

/-- The ISO text of an instant (`new Date(ms).toISOString()`). -/
def toISOString (ms : ℤ) : String :=
  let (y, m, d) := civilFromDays (ms / msPerDay)
  let t := ms % msPerDay
  let ys := if 0 ≤ y ∧ y ≤ 9999 then pad 4 y
    else if y < 0 then '-' :: pad 6 (-y) else '+' :: pad 6 y
  String.ofList (ys ++ '-' :: pad 2 m ++ '-' :: pad 2 d ++ 'T' :: pad 2 (t / 3600000) ++
    ':' :: pad 2 (t / 60000 % 60) ++ ':' :: pad 2 (t / 1000 % 60) ++ '.' :: pad 3 (t % 1000) ++ ['Z'])

example : parse "2026-08-16T12:00:00.000Z" = some 1786881600000 := by decide +kernel

example : toISOString 1786881600000 = "2026-08-16T12:00:00.000Z" := by decide +kernel

end Js.Date
