/-
  Numbers of the language that exact arithmetic does not have: the rounding of `Math.round`,
  quotients by zero, and the decimal numbers of texts.

  `Number.parseFloat` reads the number that a text starts with, and `Number` one that is the whole
  text; a text of no finite number has none.
-/
import AX10M.Js.Text
import Mathlib.Algebra.Order.Field.Basic
import Mathlib.Algebra.Order.Floor.Ring
import Mathlib.Data.Rat.Floor

namespace Js

variable {K : Type} [Field K] [LinearOrder K]

/-- `Math.round`: halves go up. -/
def round [FloorRing K] (x : K) : ℤ := ⌊x + 1 / 2⌋

/-- A quotient, undefined by zero. -/
def checkedDiv (x y : K) : Option K := if y = 0 then none else some (x / y)

/-- A number that may be infinite or `NaN`. -/
inductive Number (K : Type) where
  | fin (x : K)
  | infinity
  | nan

namespace Number

/-- `x / y` for a number `x` that is not negative. -/
def div (x y : K) : Number K := if y ≠ 0 then fin (x / y) else if x = 0 then nan else infinity

/-- `x + y`, without negative infinities. -/
def add : Number K → Number K → Number K
  | fin x, fin y => fin (x + y)
  | nan, _ | _, nan => nan
  | _, _ => infinity

/-- `x > y`. -/
def gt : Number K → K → Bool
  | fin x, y => decide (x > y)
  | infinity, _ => true
  | nan, _ => false

/-- `x.toFixed(2)` of a number that is not negative. -/
def toFixed2 [FloorRing K] : Number K → String
  | fin x =>
    let n := (round (x * (100 : ℕ))).toNat
    s!"{n / 100}.{n / 10 % 10}{n % 10}"
  | infinity => "Infinity"
  | nan => "NaN"

end Number

variable [FloorRing K]

theorem round_le (x : K) : (round x : K) ≤ x + 1 / 2 := Int.floor_le _

variable [IsStrictOrderedRing K]

theorem lt_round (x : K) : x - 1 / 2 < round x := by
  have h := Int.lt_floor_add_one (x + 1 / 2)
  have h2 : x - 1 / 2 = x + 1 / 2 - 1 := by rw [sub_eq_sub_iff_add_eq_add, add_assoc]; norm_num
  rw [h2]
  exact sub_lt_iff_lt_add.2 h

@[simp] theorem round_intCast (n : ℤ) : round (n : K) = n := by
  have h : (1 / 2 : K) < 1 := by norm_num
  have h0 : (0 : K) ≤ 1 / 2 := by norm_num
  rw [round, Int.floor_intCast_add, Int.floor_eq_zero_iff.2 ⟨h0, h⟩, add_zero]

theorem round_mono {x y : K} (h : x ≤ y) : round x ≤ round y :=
  Int.floor_mono (by simpa using h)

@[simp] theorem round_zero : round (0 : K) = 0 := by
  rw [← Int.cast_zero, round_intCast]

theorem round_nonneg {x : K} (h : 0 ≤ x) : 0 ≤ round x := by
  have := round_mono h
  rwa [round_zero] at this

end Js

/-! ## Decimal numbers in texts -/

namespace Js

/-- The value of decimal digits. -/
def digitsValue (digits : List Char) : ℕ :=
  digits.foldl (fun n c => n * 10 + (c.toNat - '0'.toNat)) 0

/-- The number with the exponent. -/
def scale (x : ℚ) : ℤ → ℚ
  | .ofNat n => x * (10 ^ n : ℕ)
  | .negSucc n => x / (10 ^ (n + 1) : ℕ)

/-- Whether there is a minus sign, and what follows the sign. -/
def signOf : List Char → Bool × List Char
  | '-' :: cs => (true, cs)
  | '+' :: cs => (false, cs)
  | cs => (false, cs)

/-- The exponent at the start of a text, and what follows it. -/
def exponentOf (cs : List Char) : ℤ × List Char :=
  match cs with
  | [] => (0, [])
  | c :: rest =>
    let (negative, rest) := signOf rest
    let digits := rest.takeWhile Char.isDigit
    if (c = 'e' ∨ c = 'E') ∧ digits ≠ [] then
      ((if negative then -1 else 1) * digitsValue digits, rest.dropWhile Char.isDigit)
    else (0, cs)

/-- The fraction digits at the start of a text, and what follows them. -/
def fractionOf : List Char → List Char × List Char
  | '.' :: cs => (cs.takeWhile Char.isDigit, cs.dropWhile Char.isDigit)
  | cs => ([], cs)

/-- The decimal number at the start of a text, and what follows it. -/
def decimalPrefix (cs : List Char) : Option (ℚ × List Char) :=
  let (negative, cs) := signOf cs
  let whole := cs.takeWhile Char.isDigit
  let (fraction, cs) := fractionOf (cs.dropWhile Char.isDigit)
  if whole = [] ∧ fraction = [] then none
  else
    let (exponent, cs) := exponentOf cs
    let x := scale (digitsValue (whole ++ fraction)) (exponent - fraction.length)
    some (if negative then -x else x, cs)

/-- The number that a text starts with (`Number.parseFloat`). -/
def parseFloat (s : String) : Option ℚ :=
  (decimalPrefix (s.toList.dropWhile isSpace)).map Prod.fst

/-- The number that a text is (`Number`), in decimal digits. -/
def numberOf (s : String) : Option ℚ :=
  match trimList s.toList with
  | [] => some 0
  | cs =>
    match decimalPrefix cs with
    | some (x, []) => some x
    | _ => none

end Js
